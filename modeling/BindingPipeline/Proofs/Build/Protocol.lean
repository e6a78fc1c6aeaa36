/-
BindingPipeline/Proofs/Build/Protocol.lean

The protocol of the stages: what is done in the course of a build, in which order, and what comes of it.

A build has a schedule, which is known before anything is done: each stage in its turn and, right behind
the first stage, the directory for the artifacts and the artifacts one by one.  `Staging.Performs` says
that a list of events is the schedule carried out from one state to another, up to and including the first
event that is a failure.  Each event says what it does to the state (`Event.Leads`), so a run is known as
far as its runner is, of which nothing is assumed.

Design.  A runner is asked by its own state whether a stage has work.  Every stage is asked for once, so
any answers at all are those of some state.  That a runner is called for the events of the list, and for
nothing else, shows in a runner that takes notes (`Runner.recorded`).

Main result: `Staging.orchestrate_performs`, for every runner, staging and session.
-/
import BindingPipeline.Proofs.Build.Failure
import BindingPipeline.Proofs.Build.Stages

namespace BindingPipeline.Build

open FileSystem

variable {σ : Type} {s s' : Session} {r : σ} {x y z : σ × Session} {runner : Runner σ} {st : Staging}
  {report : Report}

theorem Turn.ofAction_apply {α : Type} {a : Action α} :
    Turn.ofAction a x = ((a x.2).1, (x.1, (a x.2).2)) := rfl

/-! ### Failed copies -/

/-- A copy that has been made is open. -/
theorem opened_of_copyFile {source dest : Path} {u : Unit} (h : copyFile source dest s = (.ok u, s')) :
    s'.Opened dest := by
  unfold copyFile at h
  obtain ⟨-, s₁, -, h⟩ := Action.bind_eq_ok_iff.1 h
  obtain ⟨-, s₂, -, h⟩ := Action.bind_eq_ok_iff.1 h
  obtain ⟨contents, s₃, -, hwrite⟩ := Action.bind_eq_ok_iff.1 h
  exact Action.opened_of_change_write hwrite

namespace Staging

/-- What staging an artifact comes to: its destination is written and nothing else, and then it has the bytes and
the time that the artifact had; only an artifact that is its own destination is emptied.  In a failure nothing has
been done but perhaps an attempt to copy, which writes nothing else either. -/
def Copies (st : Staging) (artifact : Path) : Except Error Path → Session → Session → Prop
  | .ok dest, s, s' => st.destination artifact = .ok dest ∧ s.Within s' {target s.cwd dest} ∅ ∧
      ∃ bytes t, s.Holds artifact bytes t ∧
        s'.Holds dest (if target s.cwd artifact = target s.cwd dest then ByteArray.empty else bytes) t
  | .error e, s, s' => s' = s ∨ ∃ dest, st.destination artifact = .ok dest ∧
      s.Within s' {target s.cwd dest} ∅ ∧ copyFile artifact dest s = (.error e, s')

theorem copies_of_stageOne_eq_ok {artifact dest : Path} (hreal : st.isDryRun = false)
    (h : st.stageOne artifact s = (.ok dest, s')) : st.Copies artifact (.ok dest) s s' := by
  obtain ⟨hdest, hwithin, hcopied⟩ := stageOne_eq_ok hreal h
  obtain ⟨bytes, t, hholds⟩ := exists_holds_of_stageOne hreal h
  refine ⟨hdest, hwithin, bytes, t, hholds, ?_⟩
  by_cases hsame : target s.cwd artifact = target s.cwd dest
  · rw [if_pos hsame]
    exact holds_of_stageOne_onto_itself hreal hsame hholds h
  · rw [if_neg hsame]
    exact hcopied hsame bytes t hholds

theorem stageOne_eq_error {artifact : Path} {e : Error} (hreal : st.isDryRun = false)
    (h : st.stageOne artifact s = (.error e, s')) : st.Copies artifact (.error e) s s' := by
  unfold stageOne at h
  rw [Action.bind_eq_error_iff] at h
  rcases h with hlift | ⟨dest, s₁, hlift, h⟩
  · exact .inl ((Action.Reads.lift _).eq hlift)
  obtain ⟨hdest, rfl⟩ := Action.lift_eq_ok_iff.1 hlift
  rw [hreal, if_neg Bool.false_ne_true, Action.bind_eq_error_iff] at h
  rcases h with hmodified | ⟨t, s₂, hmodified, h⟩
  · exact .inl ((Action.Reads.ask _ _).eq hmodified)
  obtain ⟨-, rfl⟩ := modified_eq_ok_iff.1 hmodified
  rw [Action.bind_eq_error_iff] at h
  rcases h with hcopy | ⟨u, mid, hcopy, h⟩
  · exact .inr ⟨dest, hdest, copyFile_within.of_eq hcopy, hcopy⟩
  rw [Action.bind_eq_error_iff] at h
  rcases h with hstamp | ⟨u', last, -, hpure⟩
  · -- behind the copy nothing is refused
    exact absurd hstamp (stamp_ne_error (opened_of_copyFile hcopy))
  · cases hpure

theorem copies_of_stageOne {artifact : Path} {result : Except Error Path} (hreal : st.isDryRun = false)
    (h : st.stageOne artifact s = (result, s')) : st.Copies artifact result s s' := by
  cases result with
  | ok dest => exact copies_of_stageOne_eq_ok hreal h
  | error e => exact stageOne_eq_error hreal h

end Staging

/-! ### Tasks and events -/

/-- What is to be done in the course of a build. -/
inductive Task
  | turn (g : Stage)
  | prepare
  | copy (artifact : Path)
  deriving DecidableEq, Repr

/-- The stage whose turn it is. -/
def Task.stage? : Task → Option Stage
  | turn g => some g
  | _ => none

/-- The artifact that is to be staged. -/
def Task.artifact? : Task → Option Path
  | copy artifact => some artifact
  | _ => none

/-- What has been done, and what came of it.  A stage without work is skipped, and for any other one the
runner is called. -/
inductive Event
  | skipped (g : Stage)
  | called (g : Stage) (result : Except Error Unit)
  | prepared (result : Except Error Unit)
  | copied (artifact : Path) (result : Except Error Path)

namespace Event

/-- The task that the event was about. -/
def task : Event → Task
  | skipped g => .turn g
  | called g _ => .turn g
  | prepared _ => .prepare
  | copied artifact _ => .copy artifact

/-- The failure that is reported if the event was one. -/
def failure? : Event → Option Error
  | called g (.error e) => some (ofStage g e)
  | prepared (.error e) => some e
  | copied _ (.error e) => some e
  | _ => none

/-- The stage for which the runner was called. -/
def call? : Event → Option Stage
  | called g _ => some g
  | _ => none

/-- What is reported of a stage. -/
def outcome? : Event → Option (Stage × Outcome)
  | skipped g => some (g, .skipped)
  | called g _ => some (g, .ran)
  | _ => none

/-- Where an artifact was staged. -/
def dest? : Event → Option Path
  | copied _ (.ok dest) => some dest
  | _ => none

/-- The event leads from one state to another. -/
def Leads (st : Staging) (runner : Runner σ) : Event → σ × Session → σ × Session → Prop
  | skipped g, x, y => runner.hasWork x.1 g = false ∧ y = x
  | called g result, x, y => runner.hasWork x.1 g = true ∧ runner.run g x = (result, y)
  | prepared result, x, y => y.1 = x.1 ∧ Action.makeDirectories st.directory x.2 = (result, y.2)
  | copied artifact result, x, y => y.1 = x.1 ∧ st.stageOne artifact x.2 = (result, y.2) ∧
      st.Copies artifact result x.2 y.2

/-- Whatever the state, something comes of a task. -/
theorem exists_leads (hreal : st.isDryRun = false) (runner : Runner σ) (task : Task)
    (x : σ × Session) : ∃ event y, event.task = task ∧ Leads st runner event x y := by
  cases task with
  | turn g =>
    cases hwork : runner.hasWork x.1 g with
    | false => exact ⟨.skipped g, x, rfl, hwork, rfl⟩
    | true => exact ⟨.called g (runner.run g x).1, (runner.run g x).2, rfl, hwork, rfl⟩
  | prepare =>
    exact ⟨.prepared (Action.makeDirectories st.directory x.2).1,
      (x.1, (Action.makeDirectories st.directory x.2).2), rfl, rfl, rfl⟩
  | copy artifact =>
    exact ⟨.copied artifact (st.stageOne artifact x.2).1, (x.1, (st.stageOne artifact x.2).2), rfl, rfl,
      rfl, Staging.copies_of_stageOne hreal rfl⟩

end Event

namespace Runner

/-- A runner that notes for which stages it is called. -/
def recorded (runner : Runner σ) : Runner (σ × List Stage) where
  hasWork := fun r g => runner.hasWork r.1 g
  run := fun g x =>
    let (result, r, s) := runner.run g (x.1.1, x.2)
    (result, (r, x.1.2 ++ [g]), s)

/-- What the runner does, it also does while it takes notes. -/
theorem leads_recorded {event : Event} (calls : List Stage) (h : event.Leads st runner x y) :
    event.Leads st runner.recorded ((x.1, calls), x.2) ((y.1, calls ++ event.call?.toList), y.2) := by
  cases event with
  | skipped g =>
    obtain ⟨hwork, rfl⟩ := h
    exact ⟨hwork, by rw [show (Event.skipped g).call?.toList = [] from rfl, List.append_nil]⟩
  | called g result =>
    obtain ⟨hwork, hrun⟩ := h
    refine ⟨hwork, ?_⟩
    unfold recorded
    simp only [hrun]
    rfl
  | prepared result =>
    obtain ⟨hsame, hmake⟩ := h
    exact ⟨by rw [hsame, show (Event.prepared result).call?.toList = [] from rfl, List.append_nil], hmake⟩
  | copied artifact result =>
    obtain ⟨hsame, hcopy⟩ := h
    exact ⟨by rw [hsame, show (Event.copied artifact result).call?.toList = [] from rfl,
      List.append_nil], hcopy⟩

/-! ### A stage in its turn -/

/-- What a stage that is taken comes to. -/
theorem take_eq_of_leads {event : Event} {g : Stage} (hturn : event.task = .turn g)
    (h : event.Leads st runner x y) : runner.take false g x =
      (event.failure?.elim (.ok (if event.call? = none then .skipped else .ran)) .error, y) := by
  obtain ⟨r, s⟩ := x
  cases event with
  | skipped g' =>
    obtain rfl := Task.turn.inj hturn
    obtain ⟨hwork, rfl⟩ := h
    unfold take
    simp only [Bool.false_eq_true, if_false, hwork]
    rfl
  | called g' result =>
    obtain rfl := Task.turn.inj hturn
    obtain ⟨hwork, hrun⟩ := h
    unfold take
    simp only [Bool.false_eq_true, if_false, if_pos hwork, hrun]
    cases result with
    | ok u => rfl
    | error e => rfl
  | prepared result => cases hturn
  | copied artifact result => cases hturn

end Runner

namespace Staging

/-! ### Performances -/

/-- What there is to do in a build: the first stage, then staging, then the other stages. -/
def schedule (st : Staging) : List Task :=
  .turn .buildExt :: .prepare :: st.artifacts.map .copy ++ Stage.all.tail.map .turn

/-- The tasks are performed in their order, up to and including the first that fails. -/
inductive Performs (st : Staging) (runner : Runner σ) :
    List Task → σ × Session → List Event → Option Error → σ × Session → Prop
  | done (x : σ × Session) : Performs st runner [] x [] none x
  | fails {event : Event} {tasks : List Task} {x y : σ × Session} {e : Error} :
      event.Leads st runner x y → event.failure? = some e →
      Performs st runner (event.task :: tasks) x [event] (some e) y
  | goesOn {event : Event} {tasks : List Task} {x y z : σ × Session} {events : List Event}
      {failure : Option Error} :
      event.Leads st runner x y → event.failure? = none →
      Performs st runner tasks y events failure z →
      Performs st runner (event.task :: tasks) x (event :: events) failure z

/-- Whatever the state, a list of tasks can be performed. -/
theorem exists_performs (hreal : st.isDryRun = false) (runner : Runner σ) (tasks : List Task)
    (x : σ × Session) : ∃ events failure y, st.Performs runner tasks x events failure y := by
  induction tasks generalizing x with
  | nil => exact ⟨[], none, x, .done x⟩
  | cons task tasks ih =>
    obtain ⟨event, y, rfl, hleads⟩ := Event.exists_leads hreal runner task x
    rcases hfailure : event.failure? with - | e
    · obtain ⟨events, failure, z, hrest⟩ := ih y
      exact ⟨event :: events, failure, z, .goesOn hleads hfailure hrest⟩
    · exact ⟨[event], some e, y, .fails hleads hfailure⟩

namespace Performs

variable {tasks tasks' : List Task} {events : List Event} {failure : Option Error} {e : Error}

theorem recorded (h : st.Performs runner tasks x events failure y) (calls : List Stage) :
    st.Performs runner.recorded tasks ((x.1, calls), x.2) events failure
      ((y.1, calls ++ events.filterMap Event.call?), y.2) := by
  induction h generalizing calls with
  | done x =>
    rw [List.filterMap_nil, List.append_nil]
    exact .done _
  | @fails event _ _ _ _ hleads hfailed =>
    have hone : [event].filterMap Event.call? = event.call?.toList := by
      rw [List.filterMap_cons, List.filterMap_nil]
      cases event.call? with
      | none => rfl
      | some g => rfl
    rw [hone]
    exact .fails (Runner.leads_recorded calls hleads) hfailed
  | @goesOn event _ _ _ _ events _ hleads hgood _ ih =>
    have hcons : calls ++ (event :: events).filterMap Event.call? =
        calls ++ event.call?.toList ++ events.filterMap Event.call? := by
      rw [List.append_assoc, List.filterMap_cons]
      cases event.call? with
      | none => rfl
      | some g => rfl
    rw [hcons]
    exact .goesOn (Runner.leads_recorded calls hleads) hgood (ih _)

/-- The first task is a failure, or the others come behind it. -/
theorem of_cons {task : Task} (h : st.Performs runner (task :: tasks) x events failure z) :
    ∃ event y, event.task = task ∧ event.Leads st runner x y ∧
      ((event.failure? = failure ∧ failure ≠ none ∧ events = [event] ∧ z = y) ∨
        (event.failure? = none ∧
          ∃ rest, events = event :: rest ∧ st.Performs runner tasks y rest failure z)) := by
  cases h with
  | fails hleads hfailed => exact ⟨_, _, rfl, hleads, .inl ⟨hfailed, nofun, rfl, rfl⟩⟩
  | goesOn hleads hgood hrest => exact ⟨_, _, rfl, hleads, .inr ⟨hgood, _, rfl, hrest⟩⟩

/-- Of two rows of tasks the second is begun when the first is done without a failure. -/
theorem of_append (h : st.Performs runner (tasks ++ tasks') x events failure z) :
    (∃ e, failure = some e ∧ st.Performs runner tasks x events failure z) ∨
      ∃ before behind y, events = before ++ behind ∧ st.Performs runner tasks x before none y ∧
        st.Performs runner tasks' y behind failure z := by
  induction tasks generalizing x events with
  | nil => exact .inr ⟨[], events, x, rfl, .done x, h⟩
  | cons task tasks ih =>
    cases h with
    | fails hleads hfailed => exact .inl ⟨_, rfl, .fails hleads hfailed⟩
    | goesOn hleads hgood hrest =>
      rcases ih hrest with ⟨e, rfl, hfirst⟩ | ⟨before, behind, y, rfl, hfirst, hsecond⟩
      · exact .inl ⟨e, rfl, .goesOn hleads hgood hfirst⟩
      · exact .inr ⟨_ :: before, behind, y, rfl, .goesOn hleads hgood hfirst, hsecond⟩

/-- What has been done is a part of the schedule from its beginning. -/
theorem map_task_prefix (h : st.Performs runner tasks x events failure y) :
    events.map Event.task <+: tasks := by
  induction h with
  | done => exact List.prefix_rfl
  | fails => exact List.prefix_append [_] _
  | goesOn _ _ _ ih => exact (List.prefix_cons_inj _).2 ih

/-- Without a failure everything is done. -/
theorem map_task_eq (h : st.Performs runner tasks x events none y) :
    events.map Event.task = tasks := by
  generalize hnone : (none : Option Error) = failure at h
  induction h with
  | done => rfl
  | fails => cases hnone
  | goesOn _ _ _ ih => rw [List.map_cons, ih hnone]

/-- Only the last event can be a failure, and then it is the one that is reported. -/
theorem eq_of_failure {event : Event} (h : st.Performs runner tasks x events failure y)
    (hmem : event ∈ events) (hfailed : event.failure? = some e) :
    failure = some e ∧ ∃ before, events = before ++ [event] ∧ ∀ b ∈ before, b.failure? = none := by
  induction h with
  | done => cases hmem
  | fails _ hlast =>
    obtain rfl := List.mem_singleton.1 hmem
    exact ⟨hlast.symm.trans hfailed, [], rfl, List.forall_mem_nil _⟩
  | @goesOn first _ _ _ _ _ _ _ hgood _ ih =>
    rcases List.mem_cons.1 hmem with rfl | hmem
    · rw [hgood] at hfailed
      cases hfailed
    · obtain ⟨rfl, before, rfl, hbefore⟩ := ih hmem
      exact ⟨rfl, first :: before, rfl, List.forall_mem_cons.2 ⟨hgood, hbefore⟩⟩

/-- A failure that is reported has happened. -/
theorem eq_none (h : st.Performs runner tasks x events failure y)
    (hgood : ∀ event ∈ events, event.failure? = none) : failure = none := by
  induction h with
  | done => rfl
  | fails _ hfailed => exact hfailed.symm.trans (hgood _ List.mem_cons_self)
  | goesOn _ _ _ ih => exact ih fun event hmem => hgood event (List.mem_cons_of_mem _ hmem)

end Performs

/-! ### Runs -/

/-- What copies in a row come to. -/
theorem mapM_stageOne_eq {artifacts : List Path} {events : List Event} {failure : Option Error}
    (h : st.Performs runner (artifacts.map .copy) x events failure z) :
    z.1 = x.1 ∧ artifacts.mapM st.stageOne x.2 =
      (failure.elim (.ok (events.filterMap Event.dest?)) .error, z.2) := by
  induction artifacts generalizing x events with
  | nil =>
    cases h
    exact ⟨rfl, rfl⟩
  | cons artifact artifacts ih =>
    obtain ⟨event, y, htask, hleads, h⟩ := h.of_cons
    obtain ⟨result, rfl⟩ : ∃ result, event = .copied artifact result := by
      cases event with
      | copied a result =>
        obtain rfl := Task.copy.inj htask
        exact ⟨result, rfl⟩
      | skipped g => cases htask
      | called g result => cases htask
      | prepared result => cases htask
    obtain ⟨hsame, hone, -⟩ := hleads
    rw [List.mapM_cons, state_bind_apply, hone]
    cases result with
    | error e =>
      rcases h with ⟨rfl, -, rfl, rfl⟩ | ⟨hgood, -⟩
      · exact ⟨hsame, rfl⟩
      · cases hgood
    | ok dest =>
      rcases h with ⟨rfl, hne, -⟩ | ⟨-, rest, rfl, hrest⟩
      · exact absurd rfl hne
      · obtain ⟨hlast, hall⟩ := ih hrest
        refine ⟨hlast.trans hsame, ?_⟩
        show (artifacts.mapM st.stageOne >>= fun dests => pure (dest :: dests)) y.2 = _
        rw [state_bind_apply, hall]
        cases failure with
        | some e => rfl
        | none => rfl

/-- What staging comes to. -/
theorem stageAll_eq {events : List Event} {failure : Option Error} (hreal : st.isDryRun = false)
    (h : st.Performs runner (.prepare :: st.artifacts.map .copy) x events failure z) :
    z.1 = x.1 ∧ st.stageAll x.2 =
      (failure.elim (.ok (events.filterMap Event.dest?)) .error, z.2) := by
  obtain ⟨event, y, htask, hleads, h⟩ := h.of_cons
  obtain ⟨result, rfl⟩ : ∃ result, event = .prepared result := by
    cases event with
    | prepared result => exact ⟨result, rfl⟩
    | skipped g => cases htask
    | called g result => cases htask
    | copied a result => cases htask
  obtain ⟨hsame, hmake⟩ := hleads
  unfold stageAll
  rw [hreal]
  show z.1 = x.1 ∧ (Action.makeDirectories st.directory >>= fun _ => st.artifacts.mapM st.stageOne) x.2 = _
  rw [state_bind_apply, hmake]
  cases result with
  | error e =>
    rcases h with ⟨rfl, -, rfl, rfl⟩ | ⟨hgood, -⟩
    · exact ⟨hsame, rfl⟩
    · cases hgood
  | ok u =>
    rcases h with ⟨rfl, hne, -⟩ | ⟨-, rest, rfl, hrest⟩
    · exact absurd rfl hne
    · obtain ⟨hlast, hall⟩ := mapM_stageOne_eq hrest
      exact ⟨hlast.trans hsame, hall⟩

/-- What is reported of stages that have been taken. -/
theorem filterMap_outcome_cons {event : Event} {g : Stage} (events : List Event)
    (hturn : event.task = .turn g) : (event :: events).filterMap Event.outcome? =
      (g, if event.call? = none then Outcome.skipped else .ran) :: events.filterMap Event.outcome? := by
  cases event with
  | skipped g' =>
    obtain rfl := Task.turn.inj hturn
    rfl
  | called g' result =>
    obtain rfl := Task.turn.inj hturn
    rfl
  | prepared result => cases hturn
  | copied artifact result => cases hturn

/-- Staging reports of no stage. -/
theorem filterMap_outcome_of_staging {artifacts : List Path} {events : List Event}
    (h : events.map Event.task = .prepare :: artifacts.map .copy) :
    events.filterMap Event.outcome? = [] := by
  refine List.filterMap_eq_nil_iff.2 fun event hevent => ?_
  have htask : event.task ∈ .prepare :: artifacts.map .copy := h ▸ List.mem_map_of_mem hevent
  cases event with
  | skipped g => simp [Event.task] at htask
  | called g result => simp [Event.task] at htask
  | prepared result => rfl
  | copied artifact result => rfl

/-- Stages in their turns stage nothing. -/
theorem filterMap_dest_of_turns {gs : List Stage} {events : List Event}
    (h : events.map Event.task <+: gs.map .turn) : events.filterMap Event.dest? = [] := by
  refine List.filterMap_eq_nil_iff.2 fun event hevent => ?_
  have htask : event.task ∈ gs.map Task.turn := h.subset (List.mem_map_of_mem hevent)
  cases event with
  | skipped g => rfl
  | called g result => rfl
  | prepared result => simp [Event.task] at htask
  | copied artifact result => simp [Event.task] at htask

/-- What stages behind staging come to. -/
theorem takeTurns_eq {gs : List Stage} {events : List Event} {failure : Option Error} (report : Report)
    (hreal : st.isDryRun = false) (hgs : .buildExt ∉ gs)
    (h : st.Performs runner (gs.map .turn) x events failure z) :
    st.takeTurns runner gs report x = (failure.elim
      (.ok ⟨report.stages ++ events.filterMap Event.outcome?, report.staged⟩) .error, z) := by
  induction gs generalizing x events report with
  | nil =>
    cases h
    rw [List.filterMap_nil, List.append_nil]
    rfl
  | cons g gs ih =>
    obtain ⟨hg, hgs⟩ := not_or.1 fun hor => hgs (List.mem_cons.2 hor)
    obtain ⟨event, y, hturn, hleads, h⟩ := h.of_cons
    unfold takeTurns
    rw [state_bind_apply, hreal, Runner.take_eq_of_leads hturn hleads]
    rcases h with ⟨hfailed, hne, rfl, rfl⟩ | ⟨hgood, rest, rfl, hrest⟩
    · obtain ⟨e, rfl⟩ := Option.ne_none_iff_exists'.1 hne
      rw [hfailed]
      rfl
    · rw [hgood, filterMap_outcome_cons rest hturn]
      simp only [Option.elim_none, if_neg (Ne.symm hg)]
      have hlast := ih ⟨report.stages ++ [(g, if event.call? = none then .skipped else .ran)], report.staged⟩
        hgs hrest
      rw [List.append_assoc] at hlast
      exact hlast

/-- What a build comes to: the schedule is performed, and the report is made of the events. -/
theorem orchestrate_eq {events : List Event} {failure : Option Error} (hreal : st.isDryRun = false)
    (h : st.Performs runner st.schedule x events failure z) :
    st.orchestrate runner x = (failure.elim
      (.ok ⟨events.filterMap Event.outcome?, events.filterMap Event.dest?⟩) .error, z) := by
  obtain ⟨event, y, hturn, hleads, h⟩ := h.of_cons
  show st.takeTurns runner (.buildExt :: Stage.all.tail) ⟨[], []⟩ x = _
  unfold takeTurns
  rw [state_bind_apply, hreal, Runner.take_eq_of_leads hturn hleads]
  rcases h with ⟨hfailed, hne, rfl, rfl⟩ | ⟨hgood, rest, rfl, hrest⟩
  · obtain ⟨e, rfl⟩ := Option.ne_none_iff_exists'.1 hne
    rw [hfailed]
    rfl
  rw [hgood]
  simp only [Option.elim_none, if_true]
  rw [state_bind_apply]
  rcases hrest.of_append with ⟨e, rfl, hstaging⟩ | ⟨before, behind, mid, rfl, hstaging, hturns⟩
  · -- staging fails, which is reported as it is
    obtain ⟨hsame, hall⟩ := stageAll_eq hreal hstaging
    rw [Turn.ofAction_apply, hall, ← hsame]
    rfl
  · obtain ⟨hsame, hall⟩ := stageAll_eq hreal hstaging
    rw [Turn.ofAction_apply, hall, ← hsame]
    have hlast := takeTurns_eq
      ⟨[(.buildExt, if event.call? = none then .skipped else .ran)], before.filterMap Event.dest?⟩
      hreal (by decide) hturns
    have houtcomes : (event :: (before ++ behind)).filterMap Event.outcome? =
        [(.buildExt, if event.call? = none then Outcome.skipped else .ran)] ++
          behind.filterMap Event.outcome? := by
      rw [filterMap_outcome_cons _ hturn, List.filterMap_append,
        filterMap_outcome_of_staging hstaging.map_task_eq, List.nil_append, List.singleton_append]
    have hdests : (event :: (before ++ behind)).filterMap Event.dest? = before.filterMap Event.dest? := by
      have htask : [event].map Event.task <+: [Stage.buildExt].map .turn := by
        rw [List.map_singleton, hturn]
        exact List.prefix_rfl
      have hfirst : [event].filterMap Event.dest? = [] := filterMap_dest_of_turns htask
      rw [← List.singleton_append, List.filterMap_append, List.filterMap_append, hfirst, List.nil_append,
        filterMap_dest_of_turns hturns.map_task_prefix, List.append_nil]
    rw [houtcomes, hdests]
    exact hlast

/-! ### The protocol -/

/-- A failure of a stage names a stage and a fault: those of the failure if it is one of a stage, and else
the stage in whose turn it happened with the wording of the failure. -/
theorem ofStage_eq (g : Stage) (e : Error) : ∃ g' fault, ofStage g e = .stageFailed g' fault ∧
    (e = .stageFailed g' fault ∨
      (∀ g'' fault'', e ≠ .stageFailed g'' fault'') ∧ g' = g ∧ fault = .raised e.message) := by
  cases e with
  | stageFailed g' fault => exact ⟨g', fault, rfl, .inl rfl⟩
  | notFound path => exact ⟨g, _, rfl, .inr ⟨nofun, rfl, rfl⟩⟩
  | malformedCatalog path fault => exact ⟨g, _, rfl, .inr ⟨nofun, rfl, rfl⟩⟩
  | invalidOperation opcode fault => exact ⟨g, _, rfl, .inr ⟨nofun, rfl, rfl⟩⟩
  | unknownType opcode typeName => exact ⟨g, _, rfl, .inr ⟨nofun, rfl, rfl⟩⟩
  | duplicateOperation name => exact ⟨g, _, rfl, .inr ⟨nofun, rfl, rfl⟩⟩
  | inconsistent finding => exact ⟨g, _, rfl, .inr ⟨nofun, rfl, rfl⟩⟩
  | io path cause => exact ⟨g, _, rfl, .inr ⟨nofun, rfl, rfl⟩⟩
  | encode reason => exact ⟨g, _, rfl, .inr ⟨nofun, rfl, rfl⟩⟩
  | config path fault => exact ⟨g, _, rfl, .inr ⟨nofun, rfl, rfl⟩⟩

/-- The stages that are called for are among those whose turn it was. -/
theorem filterMap_call_sublist (events : List Event) :
    (events.filterMap Event.call?).Sublist ((events.map Event.task).filterMap Task.stage?) := by
  induction events with
  | nil => exact .slnil
  | cons event events ih =>
    cases event with
    | skipped g => exact ih.cons g
    | called g result => exact ih.cons_cons g
    | prepared result => exact ih
    | copied artifact result => exact ih

theorem filterMap_stage_schedule (st : Staging) : st.schedule.filterMap Task.stage? = Stage.all := by
  have hcopies : (st.artifacts.map Task.copy).filterMap Task.stage? = [] := by
    rw [List.filterMap_map]
    exact List.filterMap_eq_nil_iff.2 fun _ _ => rfl
  show (([Task.turn .buildExt, Task.prepare] ++ st.artifacts.map Task.copy) ++
    Stage.all.tail.map Task.turn).filterMap Task.stage? = _
  rw [List.filterMap_append, List.filterMap_append, hcopies]
  rfl

/-- What is said of the events of a build, and of what comes of it.

* `order`: what has been done is the schedule from its beginning, and without a failure all of it.
* `uninterrupted`: nothing is done behind a failure.
* `calls`: the stages for which the runner is called come in their order, and none of them twice.
* `staged`: staging begins exactly if the first stage has been taken without a failure.
* `broken`: an artifact that cannot be staged is the last thing that is done, behind the artifacts in front
  of it.
* `stage_fails`: a stage that fails is named, unless the runner has named one already.
* `staging_fails`: a failure of staging is reported as it is.
* `succeeds`: a report names all stages with what became of them, and where each artifact is. -/
structure Protocol (st : Staging) (events : List Event) (result : Except Error Report) : Prop where
  order : events.map Event.task <+: st.schedule ∧ ((∀ event ∈ events, event.failure? = none) →
    events.map Event.task = st.schedule)
  uninterrupted : ∀ event ∈ events.dropLast, event.failure? = none
  calls : (events.filterMap Event.call?).Sublist Stage.all
  staged : .prepare ∈ events.map Event.task ↔
    ∃ event ∈ events, event.task = .turn .buildExt ∧ event.failure? = none
  broken : ∀ artifact e, .copied artifact (.error e) ∈ events →
    ∃ before behind, st.artifacts = before ++ artifact :: behind ∧ events.map Event.task =
      .turn .buildExt :: .prepare :: before.map .copy ++ [.copy artifact]
  stage_fails : ∀ g e, .called g (.error e) ∈ events → ∃ g' fault,
    result = .error (.stageFailed g' fault) ∧ (e = .stageFailed g' fault ∨
      (∀ g'' fault'', e ≠ .stageFailed g'' fault'') ∧ g' = g ∧ fault = .raised e.message)
  staging_fails : ∀ e, .prepared (.error e) ∈ events ∨ (∃ artifact, .copied artifact (.error e) ∈ events) →
    result = .error e
  succeeds : (∀ event ∈ events, event.failure? = none) → ∃ report, result = .ok report ∧
    report.stages = events.filterMap Event.outcome? ∧ report.stages.map Prod.fst = Stage.all ∧
    List.Forall₂ (fun artifact dest => st.destination artifact = .ok dest) st.artifacts report.staged

theorem filterMap_artifact_schedule (st : Staging) :
    st.schedule.filterMap Task.artifact? = st.artifacts := by
  have hcopies : (st.artifacts.map Task.copy).filterMap Task.artifact? = st.artifacts := by
    rw [List.filterMap_map]
    exact List.filterMap_some
  show (([Task.turn .buildExt, Task.prepare] ++ st.artifacts.map Task.copy) ++
    Stage.all.tail.map Task.turn).filterMap Task.artifact? = _
  rw [List.filterMap_append, List.filterMap_append, hcopies]
  exact List.append_nil _

/-- What is reported of the stages are those whose turn it was. -/
theorem map_fst_filterMap_outcome (events : List Event) :
    (events.filterMap Event.outcome?).map Prod.fst = (events.map Event.task).filterMap Task.stage? := by
  induction events with
  | nil => rfl
  | cons event events ih =>
    cases event with
    | skipped g => exact congrArg (g :: ·) ih
    | called g result => exact congrArg (g :: ·) ih
    | prepared result => exact ih
    | copied artifact result => exact ih

/-- In front of the copy of an artifact the schedule has the first stage, the directory, and the artifacts
in front of it. -/
theorem copies_of_schedule {artifact : Path} {done rest : List Task}
    (h : st.schedule = done ++ .copy artifact :: rest) :
    ∃ before behind, st.artifacts = before ++ artifact :: behind ∧
      done = .turn .buildExt :: .prepare :: before.map .copy := by
  have hturns : .copy artifact ∉ Stage.all.tail.map Task.turn := by simp [Stage.all]
  rcases List.append_eq_append_iff.1 h with ⟨turns, -, hrest⟩ | ⟨copies, hcopies, hrest⟩
  · rw [hrest] at hturns
    exact absurd (List.mem_append_right _ List.mem_cons_self) hturns
  rcases copies with - | ⟨copy, copies⟩
  · rw [List.nil_append] at hrest
    rw [← hrest] at hturns
    exact absurd List.mem_cons_self hturns
  obtain rfl : .copy artifact = copy := (List.cons.inj hrest).1
  -- the copy is none of the two first tasks
  rcases done with - | ⟨first, - | ⟨second, done⟩⟩
  · cases hcopies
  · cases hcopies
  · simp only [List.cons_append, List.cons.injEq] at hcopies
    obtain ⟨rfl, rfl, hcopies⟩ := hcopies
    obtain ⟨before, others, hartifacts, rfl, hothers⟩ := List.map_eq_append_iff.1 hcopies
    obtain ⟨other, behind, rfl, hother, -⟩ := List.map_eq_cons_iff.1 hothers
    obtain rfl := Task.copy.inj hother
    exact ⟨before, behind, hartifacts, rfl⟩

namespace Performs

variable {events : List Event} {failure : Option Error} {e : Error}

/-- Artifacts that have been staged are at their destinations. -/
theorem destinations {tasks : List Task} (h : st.Performs runner tasks x events none y) :
    List.Forall₂ (fun artifact dest => st.destination artifact = .ok dest)
      ((events.map Event.task).filterMap Task.artifact?) (events.filterMap Event.dest?) := by
  generalize hnone : (none : Option Error) = failure at h
  induction h with
  | done => exact .nil
  | fails => cases hnone
  | @goesOn event _ _ _ _ events _ hleads hgood _ ih =>
    cases event with
    | skipped g => exact ih hnone
    | called g result => exact ih hnone
    | prepared result => exact ih hnone
    | copied artifact result =>
      cases result with
      | error e => cases hgood
      | ok dest => exact .cons hleads.2.2.1 (ih hnone)

theorem calls (h : st.Performs runner st.schedule x events failure y) :
    (events.filterMap Event.call?).Sublist Stage.all := by
  have hprefix : (events.map Event.task).filterMap Task.stage? <+: Stage.all := by
    rw [← filterMap_stage_schedule st]
    exact h.map_task_prefix.filterMap _
  exact (filterMap_call_sublist events).trans hprefix.sublist

/-- Staging comes behind the first stage, if that does not fail. -/
theorem staged (h : st.Performs runner st.schedule x events failure y) :
    .prepare ∈ events.map Event.task ↔
      ∃ event ∈ events, event.task = .turn .buildExt ∧ event.failure? = none := by
  obtain ⟨first, mid, hfirst, -, h⟩ := h.of_cons
  rcases h with ⟨hfailed, hne, rfl, -⟩ | ⟨hgood, rest, rfl, hrest⟩
  · constructor
    · intro hmem
      rw [List.map_singleton, hfirst, List.mem_singleton] at hmem
      cases hmem
    · rintro ⟨event, hmem, -, hgood⟩
      obtain rfl := List.mem_singleton.1 hmem
      exact absurd (hfailed.symm.trans hgood) hne
  · obtain ⟨second, mid', hsecond, -, h⟩ := hrest.of_cons
    have hmem : second ∈ rest := by
      rcases h with ⟨-, -, rfl, -⟩ | ⟨-, rest', rfl, -⟩
      · exact List.mem_cons_self
      · exact List.mem_cons_self
    exact iff_of_true (hsecond ▸ List.mem_map_of_mem (List.mem_cons_of_mem _ hmem))
      ⟨first, List.mem_cons_self, hfirst, hgood⟩

/-- An artifact that cannot be staged is the last thing that happens. -/
theorem broken {artifact : Path} (h : st.Performs runner st.schedule x events failure y)
    (hmem : .copied artifact (.error e) ∈ events) :
    ∃ before behind, st.artifacts = before ++ artifact :: behind ∧ events.map Event.task =
      .turn .buildExt :: .prepare :: before.map .copy ++ [.copy artifact] := by
  obtain ⟨-, done, rfl, -⟩ := h.eq_of_failure hmem rfl
  obtain ⟨rest, hrest⟩ := h.map_task_prefix
  rw [List.map_append, List.map_singleton, List.append_assoc] at hrest
  obtain ⟨before, behind, hartifacts, hdone⟩ := copies_of_schedule hrest.symm
  exact ⟨before, behind, hartifacts, by rw [List.map_append, hdone]; rfl⟩

end Performs

/-- A build that goes through all of its schedule reports of all stages and of all artifacts. -/
theorem report_of_performs {events : List Event} (h : st.Performs runner st.schedule x events none y) :
    (events.filterMap Event.outcome?).map Prod.fst = Stage.all ∧
    List.Forall₂ (fun artifact dest => st.destination artifact = .ok dest) st.artifacts
      (events.filterMap Event.dest?) := by
  constructor
  · rw [map_fst_filterMap_outcome, h.map_task_eq, filterMap_stage_schedule]
  · have hdests := h.destinations
    rwa [h.map_task_eq, filterMap_artifact_schedule] at hdests

theorem protocol_of_performs {events : List Event} {failure : Option Error}
    (h : st.Performs runner st.schedule x events failure y) :
    st.Protocol events (failure.elim
      (.ok ⟨events.filterMap Event.outcome?, events.filterMap Event.dest?⟩) .error) where
  order := by
    refine ⟨h.map_task_prefix, fun hgood => ?_⟩
    obtain rfl := h.eq_none hgood
    exact h.map_task_eq
  uninterrupted := by
    intro event hmem
    rcases hfailed : event.failure? with - | e
    · rfl
    · -- a failure would be the last event, and all others are none
      obtain ⟨-, before, rfl, hgood⟩ := h.eq_of_failure (List.dropLast_subset _ hmem) hfailed
      rw [List.dropLast_concat] at hmem
      rw [hgood event hmem] at hfailed
      cases hfailed
  calls := h.calls
  staged := h.staged
  broken := fun _ _ hmem => h.broken hmem
  stage_fails := by
    intro g e hmem
    obtain ⟨rfl, -⟩ := h.eq_of_failure hmem rfl
    obtain ⟨g', fault, heq, hfault⟩ := ofStage_eq g e
    exact ⟨g', fault, congrArg Except.error heq, hfault⟩
  staging_fails := by
    rintro e (hmem | ⟨artifact, hmem⟩)
    · obtain ⟨rfl, -⟩ := h.eq_of_failure hmem rfl
      rfl
    · obtain ⟨rfl, -⟩ := h.eq_of_failure hmem rfl
      rfl
  succeeds := by
    intro hgood
    obtain rfl := h.eq_none hgood
    obtain ⟨hstages, hdests⟩ := report_of_performs h
    exact ⟨_, rfl, rfl, hstages, hdests⟩

/-- **The protocol of the stages.**  Whatever the runner does, a build performs its schedule in order, up
to and including the first failure, the result is reported as the protocol says, and the runner has been
called for the events of the list and nothing else. -/
theorem orchestrate_performs (hreal : st.isDryRun = false) : ∃ events failure,
    st.Performs runner st.schedule (r, s) events failure (st.orchestrate runner (r, s)).2 ∧
    st.Protocol events (st.orchestrate runner (r, s)).1 ∧
    (st.orchestrate runner.recorded ((r, []), s)).2.1.2 = events.filterMap Event.call? := by
  obtain ⟨events, failure, y, h⟩ := exists_performs hreal runner st.schedule (r, s)
  refine ⟨events, failure, ?_, ?_, ?_⟩
  · rw [orchestrate_eq hreal h]
    exact h
  · rw [orchestrate_eq hreal h]
    exact protocol_of_performs h
  · rw [orchestrate_eq hreal (h.recorded [])]
    rfl

/-- A runner that counts its calls.  It has no work for one stage, and the second call is too much for
it. -/
def tired : Runner Nat where
  hasWork := fun _ g => g != .buildPy
  run := fun _ (calls, s) =>
    (if calls = 1 then .error (.notFound ⟨"libbridge.so"⟩) else .ok (), (calls + 1, s))

/-- Two files that are staged in one directory. -/
def headers : Staging := ⟨⟨"pkg"⟩, [⟨"head.i"⟩, ⟨"decl.h"⟩], false⟩

/-- The same with a file that is not there in between. -/
def brokenHeaders : Staging := { headers with artifacts := [⟨"head.i"⟩, ⟨"missing"⟩, ⟨"decl.h"⟩] }

/-- Both files are staged, and the second call of the runner is one too many. -/
theorem headers_orchestrate :
    (headers.orchestrate tired (0, Plan.smallSession ⟨9⟩ [])).1 =
      .error (.stageFailed .buildClib (.raised "Source not found: libbridge.so")) ∧
    (headers.orchestrate tired (0, Plan.smallSession ⟨9⟩ [])).2.2.nodeAt ⟨"pkg/head.i"⟩ =
      some (.file "%module m\n".toUTF8 ⟨1⟩) ∧
    (headers.orchestrate tired (0, Plan.smallSession ⟨9⟩ [])).2.2.nodeAt ⟨"pkg/decl.h"⟩ =
      some (.file "void f(void);\n".toUTF8 ⟨5⟩) := by
  decide +kernel

/-- The missing file is the end of it. -/
theorem brokenHeaders_orchestrate :
    (brokenHeaders.orchestrate tired (0, Plan.smallSession ⟨9⟩ [])).1 = .error (.notFound ⟨"missing"⟩) ∧
    (brokenHeaders.orchestrate tired (0, Plan.smallSession ⟨9⟩ [])).2.2.nodeAt ⟨"pkg/head.i"⟩ =
      some (.file "%module m\n".toUTF8 ⟨1⟩) ∧
    (brokenHeaders.orchestrate tired (0, Plan.smallSession ⟨9⟩ [])).2.2.nodeAt ⟨"pkg/decl.h"⟩ = none := by
  decide +kernel

theorem tired_performs :
    (∃ events failure y, headers.Performs tired headers.schedule (0, Plan.smallSession ⟨9⟩ []) events failure y ∧
      headers.Protocol events
        (.error (.stageFailed .buildClib (.raised "Source not found: libbridge.so"))) ∧
      events.filterMap Event.call? = [.buildExt, .buildClib] ∧
      y.2.nodeAt ⟨"pkg/head.i"⟩ = some (.file "%module m\n".toUTF8 ⟨1⟩) ∧
      y.2.nodeAt ⟨"pkg/decl.h"⟩ = some (.file "void f(void);\n".toUTF8 ⟨5⟩)) ∧
    ∃ events failure y,
      brokenHeaders.Performs tired brokenHeaders.schedule (0, Plan.smallSession ⟨9⟩ []) events failure y ∧
      brokenHeaders.Protocol events (.error (.notFound ⟨"missing"⟩)) ∧
      events.filterMap Event.call? = [.buildExt] ∧
      y.2.nodeAt ⟨"pkg/head.i"⟩ = some (.file "%module m\n".toUTF8 ⟨1⟩) ∧
      y.2.nodeAt ⟨"pkg/decl.h"⟩ = none := by
  obtain ⟨hresult, hstaged⟩ := headers_orchestrate
  obtain ⟨hresult', hstaged'⟩ := brokenHeaders_orchestrate
  obtain ⟨events, failure, hperforms, hprotocol, hcalls⟩ :=
    @orchestrate_performs Nat (Plan.smallSession ⟨9⟩ []) 0 tired headers rfl
  obtain ⟨events', failure', hperforms', hprotocol', hcalls'⟩ :=
    @orchestrate_performs Nat (Plan.smallSession ⟨9⟩ []) 0 tired brokenHeaders rfl
  rw [hresult] at hprotocol
  rw [hresult'] at hprotocol'
  exact ⟨⟨events, failure, _, hperforms, hprotocol, hcalls.symm.trans (by decide +kernel), hstaged⟩,
    events', failure', _, hperforms', hprotocol', hcalls'.symm.trans (by decide +kernel), hstaged'⟩

end Staging

end BindingPipeline.Build
