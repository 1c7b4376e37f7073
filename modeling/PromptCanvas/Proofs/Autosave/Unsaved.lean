import Mathlib.Logic.Relation
import PromptCanvas.Proofs.Autosave.Archive

/-!
No change of a scene is left unsaved.

In every step either a save takes a snapshot of the scene, or none does, and a save is pending if
the scene has changed.  What was pending stays so until the debouncer's own save takes a snapshot.
-/

set_option autoImplicit false
set_option relaxedAutoImplicit false

namespace PromptCanvas

namespace SceneSave

variable {α : Type}

variable [Scalar α] {policy : RetryPolicy α} {save : SceneSave α} {b : Workbench α}

private theorem captures_of_not_opening (runs : save.stage ≠ .opening .scene) (scene : Scene α)
    (answer : save.stage.ask.Answer) :
    save.captures scene (save.stage.resume policy b answer).1 = [] := by
  unfold captures
  cases goes : (save.stage.resume policy b answer).1 with
  | done result => rfl
  | more next =>
    cases had : save.stage.snapshot? with
    | some snapshot => rfl
    | none =>
      cases has : next.snapshot? with
      | none => simp [has]
      | some snapshot =>
        rcases SaveStage.snapshot?_resume policy b goes has with held | ⟨opens, -⟩
        · cases had.symm.trans held
        · exact absurd opens runs

end SceneSave

namespace Archive

section Pending

variable {α : Type} {a b : Archive α}

private theorem pending_of_owes (owes : a.debouncer.Owes) : a.Pending := by
  rcases owes with waits | due
  · exact .inl waits
  · exact .inr (.inl due)

private theorem pending_of_saves (waits : .opening a.keeper ∈ a.saves) :
    a.Pending := .inr (.inr waits)

private theorem Pending.cases (h : a.Pending) : a.debouncer.Owes ∨ .opening a.keeper ∈ a.saves :=
  or_assoc.mpr h

private theorem Pending.imp (h : a.Pending) (keeper : b.keeper = a.keeper)
    (owes : a.debouncer.Owes → b.debouncer.Owes)
    (saves : .opening a.keeper ∈ a.saves → .opening a.keeper ∈ b.saves) : b.Pending := by
  rcases h.cases with owed | waits
  · exact pending_of_owes (owes owed)
  · exact pending_of_saves (keeper ▸ saves waits)

end Pending

variable {α : Type} [Scalar α]

structure Frame (a b : Archive α) : Prop where
  armed : b.saver.armed = a.saver.armed
  closed : b.debouncer.closed = a.debouncer.closed
  keeper : b.keeper = a.keeper
  origin : b.origin = a.origin

/-- A save that has waited takes a snapshot of the scene, and this is put down. -/
structure Captures (a b : Archive α) (capture : Capture α) : Prop where
  captured : b.captured = a.captured ++ [capture]
  scene : capture.scene = a.scene
  document : capture.snapshot.document = Document.ofScene a.scene
  saves : ∃ before after next, a.saves = before ++ .opening capture.party :: after ∧
    b.saves = before ++ ⟨capture.party, next⟩ :: after ∧ next.snapshot? = some capture.snapshot

/-- What a step puts down: a snapshot that a save takes, or nothing, and then saves hold none but
what they held. -/
inductive Records (a b : Archive α) : Prop
  | capture {capture : Capture α} (captures : Captures a b capture)
  | nothing (captured : b.captured = a.captured)
      (held : ∀ save ∈ b.saves, ∀ snapshot ∈ save.stage.snapshot?,
        ∃ earlier ∈ a.saves, earlier.party = save.party ∧ snapshot ∈ earlier.stage.snapshot?)

/-- What a step does: no snapshot is taken, or somebody takes one of the scene as it is. -/
inductive Outcome (a b : Archive α) : Prop
  | plain (captured : b.captured = a.captured) (pending : a.Pending → b.Pending)
      (changed : b.scene ≠ a.scene → b.Pending)
  | capture {capture : Capture α} (captures : Captures a b capture) (scene : b.scene = a.scene)
      (pending : a.Pending → b.Pending ∨ capture.party = a.keeper)

section Frames

variable {policy : RetryPolicy α} {a b : Archive α}

omit [Scalar α]

private theorem Frame.refl (a : Archive α) : Frame a a := ⟨rfl, rfl, rfl, rfl⟩

private theorem frame_of_told {saver : Autosaver} {bench : Workbench α}
    (told : a.saver.Told saver) : Frame a { a with bench, saver } :=
  ⟨told.armed, told.closed, congrArg Party.task told.task, rfl⟩

private theorem frame_advance {next : Debouncer Nat} (closed : next.closed = a.debouncer.closed) :
    Frame a (a.advance next) := by
  unfold advance
  split <;> exact ⟨rfl, closed, rfl, rfl⟩

private theorem frame_endSave (a : Archive α) (party : Party) : Frame a (a.endSave party) := by
  unfold endSave
  split
  · exact ⟨rfl, a.debouncer.finishRun_frame.2.2, rfl, rfl⟩
  · exact .refl a

theorem frame_proceed (a : Archive α) (before : List (SceneSave α)) (save : SceneSave α)
    (after : List (SceneSave α)) (progress : Progress (SaveStage α) (SaveResult α)) :
    Frame a (a.proceed before save after progress) := by
  cases progress with
  | more stage => exact ⟨rfl, rfl, rfl, rfl⟩
  | done result =>
    obtain ⟨armed, closed, keeper, origin⟩ :=
      frame_endSave { a with saves := before ++ after } save.party
    exact ⟨armed, closed, keeper, origin⟩

variable [Scalar α]

private theorem Step.frame (step : Step policy a b) : Frame a b := by
  cases step with
  | change change => cases change <;> exact frame_of_told (Autosaver.told_hear _ _)
  | flush waiter => exact frame_of_told (Autosaver.told_signal _ _ _)
  | advance moved => exact frame_advance (Debouncer.closed_advance moved)
  | look waiting inbox => exact frame_advance (Debouncer.closed_receive _ _ _)
  | goOn answer under answered =>
    obtain ⟨armed, closed, keeper, origin⟩ := frame_proceed _ _ _ _ _
    exact ⟨armed, closed, keeper, origin⟩
  | elapse | saveNow | await | elsewhere => exact ⟨rfl, rfl, rfl, rfl⟩

end Frames

section Outcomes

variable {policy : RetryPolicy α} {a b : Archive α}

omit [Scalar α] in
private theorem Outcome.quiet {a b : Archive α} (captured : b.captured = a.captured)
    (scene : b.scene = a.scene) (pending : a.Pending → b.Pending) : Outcome a b :=
  .plain captured pending fun changed => absurd scene changed

omit [Scalar α] in
private theorem outcome_of_told {saver : Autosaver} {bench : Workbench α}
    (told : a.saver.Told saver) (store : bench.store = a.bench.store) :
    Outcome a { a with bench, saver } := by
  refine .quiet rfl (congrArg Store.scene store) fun pending => ?_
  exact pending.imp (congrArg Party.task told.task) told.owes id

private theorem outcome_putStore {store : Store α} {kinds : List ChangeKind}
    (armed : a.saver.armed = true) (isOpen : a.debouncer.closed = false)
    (announces : a.bench.store.Announces store kinds) : Outcome a (a.putStore store) := by
  have told := a.saver.told_hear store.collect.1
  refine .plain rfl (fun pending => ?_) fun changed => ?_
  · exact pending.imp (congrArg Party.task told.task) told.owes id
  · have said : .scene ∈ kinds := by
      by_contra unsaid
      exact changed (announces.scene unsaid)
    refine pending_of_owes (Autosaver.owes_hear armed isOpen ?_)
    change ChangeKind.scene ∈ store.announced.map Announcement.kind
    rw [announces.announced, List.map_append, List.map_map]
    exact List.mem_append_right _ (List.mem_map.mpr ⟨_, said, rfl⟩)

private theorem Change.outcome (armed : a.saver.armed = true) (isOpen : a.debouncer.closed = false)
    (change : Change a b) : Outcome a b := by
  cases change with
  | operate operation =>
    obtain ⟨kinds, announces⟩ := Store.announces_perform operation
    exact outcome_putStore armed isOpen announces
  | apply operation covers =>
    exact outcome_putStore armed isOpen (Store.announces_notify covers)

omit [Scalar α] in
private theorem outcome_advance {next : Debouncer Nat}
    (owes : a.debouncer.Owes → next.Owes ∨ next.isRunning = true) : Outcome a (a.advance next) := by
  unfold advance
  split
  · refine .quiet rfl rfl fun _ => pending_of_saves ?_
    exact List.mem_append_right _ List.mem_cons_self
  · next idle =>
    refine .quiet rfl rfl fun pending => ?_
    exact pending.imp rfl (fun owed => (owes owed).resolve_right idle) id

section Proceed

variable {before after : List (SceneSave α)} {save other : SceneSave α}

omit [Scalar α]

theorem mem_around : other ∈ before ++ save :: after ↔ other = save ∨ other ∈ before ++ after := by
  rw [List.mem_append, List.mem_cons, List.mem_append, or_left_comm]

private theorem owes_endSave (owes : a.debouncer.Owes) (party : Party) :
    (a.endSave party).debouncer.Owes := by
  unfold endSave
  split
  · obtain ⟨inbox, deadline, -⟩ := a.debouncer.finishRun_frame
    rcases owes with waits | due
    · exact .inl (inbox.symm ▸ waits)
    · exact .inr (deadline.symm ▸ due)
  · exact owes

theorem endSave_eq (a : Archive α) (party : Party) :
    (a.endSave party).bench = a.bench ∧ (a.endSave party).saves = a.saves ∧
      (a.endSave party).captured = a.captured := by
  unfold endSave
  split <;> exact ⟨rfl, rfl, rfl⟩

theorem proceed_eq (a : Archive α) (before : List (SceneSave α)) (save : SceneSave α)
    (after : List (SceneSave α)) (progress : Progress (SaveStage α) (SaveResult α)) :
    (a.proceed before save after progress).bench = a.bench ∧
      (a.proceed before save after progress).captured = a.captured := by
  cases progress with
  | more stage => exact ⟨rfl, rfl⟩
  | done result =>
    obtain ⟨bench, -, captured⟩ := endSave_eq { a with saves := before ++ after } save.party
    exact ⟨bench, captured⟩

private theorem mem_saves_proceed (mem : other ∈ before ++ after)
    (progress : Progress (SaveStage α) (SaveResult α)) :
    other ∈ (a.proceed before save after progress).saves := by
  cases progress with
  | more stage => exact mem_around.mpr (.inr mem)
  | done result =>
    rw [proceed, (endSave_eq _ save.party).2.1]
    exact mem

private theorem pending_proceed (under : a.saves = before ++ save :: after)
    (progress : Progress (SaveStage α) (SaveResult α)) (pending : a.Pending) :
    (a.proceed before save after progress).Pending ∨ save = .opening a.keeper := by
  rcases pending.cases with owed | waits
  · refine .inl (pending_of_owes ?_)
    cases progress with
    | more stage => exact owed
    | done result =>
      exact owes_endSave (show ({ a with saves := before ++ after }).debouncer.Owes from owed) _
  · rw [under] at waits
    rcases mem_around.mp waits with this | other
    · exact .inr this.symm
    · refine .inl (pending_of_saves ?_)
      rw [(frame_proceed a before save after progress).keeper]
      exact mem_saves_proceed other progress

end Proceed

private theorem exists_captures_goOn (policy : RetryPolicy α) {before after : List (SceneSave α)}
    {party : Party} (under : a.saves = before ++ .opening party :: after) (lock : SaveLock)
    (answer : Unit) :
    ∃ capture : Capture α, capture.party = party ∧
      Captures a (a.goOn policy before (.opening party) after lock answer) capture :=
  ⟨⟨party, a.scene, Snapshot.capture a.bench.store (freshName a.bench.issued)⟩, rfl,
    rfl, rfl, rfl, before, after, _, under, rfl, rfl⟩

private theorem captured_goOn_of_not_opening {save : SceneSave α}
    (runs : save.stage ≠ .opening .scene)
    (before after : List (SceneSave α)) (lock : SaveLock) (answer : save.stage.ask.Answer) :
    (a.goOn policy before save after lock answer).captured = a.captured := by
  rw [goOn, (proceed_eq _ _ _ _ _).2, work, SceneSave.captures_of_not_opening runs]
  exact List.append_nil _

private theorem outcome_goOn {before after : List (SceneSave α)} {save : SceneSave α}
    (under : a.saves = before ++ save :: after) (lock : SaveLock)
    (answer : save.stage.ask.Answer) :
    Outcome a (a.goOn policy before save after lock answer) := by
  have scene : (a.goOn policy before save after lock answer).scene = a.scene := by
    rw [goOn, Archive.scene, (proceed_eq _ _ _ _ _).1]
    exact congrArg Store.scene (SaveStage.resume_keeps policy a.bench answer).1
  have pending (waits : a.Pending) :
      (a.goOn policy before save after lock answer).Pending ∨ save = .opening a.keeper := by
    have waits' : (a.work policy save lock answer).Pending := waits.imp rfl id id
    have under' : (a.work policy save lock answer).saves = before ++ save :: after := under
    exact pending_proceed under' (save.stage.resume policy a.bench answer).1 waits'
  by_cases opens : save.stage = .opening .scene
  · obtain ⟨party, stage⟩ := save
    obtain rfl : stage = .opening .scene := opens
    obtain ⟨capture, rfl, captures⟩ := exists_captures_goOn policy under lock answer
    exact .capture captures scene fun waits => (pending waits).imp id (congrArg SceneSave.party)
  · refine .quiet (captured_goOn_of_not_opening opens before after lock answer) scene ?_
    exact fun waits => (pending waits).resolve_right fun eq => opens (congrArg SceneSave.stage eq)

private theorem Step.outcome (armed : a.saver.armed = true) (isOpen : a.debouncer.closed = false)
    (step : Step policy a b) : Outcome a b := by
  cases step with
  | change change => exact change.outcome armed isOpen
  | flush waiter => exact outcome_of_told (Autosaver.told_signal _ _ _) rfl
  | elapse time later => exact .quiet rfl rfl fun pending => pending.imp rfl id id
  | advance moved => exact outcome_advance (Debouncer.owes_advance moved)
  | look waiting inbox => exact outcome_advance fun owes => Debouncer.owes_receive owes inbox
  | saveNow party other idle =>
    exact .quiet rfl rfl fun pending => pending.imp rfl id (List.mem_append_left _)
  | await under asks refused => exact .quiet rfl rfl fun pending => pending.imp rfl id id
  | goOn answer under answered => exact outcome_goOn under _ answer
  | elsewhere metrics issued view listening =>
    exact .quiet rfl rfl fun pending => pending.imp rfl id id

end Outcomes

section Runs

variable {policy : RetryPolicy α} {s a b c : Archive α}

/-- Changes are triggers that the debouncer takes, and a scene that was not captured last is
pending. -/
structure Safe (a : Archive α) : Prop where
  armed : a.saver.armed = true
  isOpen : a.debouncer.closed = false
  pending : a.scene ≠ a.lastCaptured → a.Pending

omit [Scalar α] in
private theorem Start.safe (start : a.Start) : a.Safe := by
  refine ⟨start.armed, start.isOpen, fun dirty => absurd ?_ dirty⟩
  rw [lastCaptured, start.captured]
  exact start.origin.symm

private theorem Safe.step (safe : a.Safe) (step : Step policy a b) : b.Safe := by
  have frame := step.frame
  refine ⟨frame.armed.trans safe.armed, frame.closed.trans safe.isOpen, fun dirty => ?_⟩
  cases step.outcome safe.armed safe.isOpen with
  | plain captured pending changed =>
    have last : b.lastCaptured = a.lastCaptured := by
      rw [lastCaptured, lastCaptured, captured, frame.origin]
    by_cases same : b.scene = a.scene
    · rw [last, same] at dirty
      exact pending (safe.pending dirty)
    · exact changed same
  | capture captures scene pending =>
    refine absurd ?_ dirty
    rw [lastCaptured, captures.captured, List.getLast?_concat]
    exact scene.trans captures.scene.symm

private theorem Safe.run (safe : s.Safe) (run : Relation.ReflTransGen (Step policy) s a) :
    a.Safe := by
  induction run with
  | refl => exact safe
  | tail _ step ih => exact ih.step step

/-- What was pending is pending still, or the debouncer's own save has taken a snapshot since. -/
structure Covered (a b : Archive α) : Prop where
  keeper : b.keeper = a.keeper
  since : ∃ since, b.captured = a.captured ++ since ∧
    (b.Pending ∨ ∃ capture ∈ since, capture.party = a.keeper)

private theorem Covered.step (covered : Covered a b) (safe : b.Safe) (step : Step policy b c) :
    Covered a c := by
  obtain ⟨keeper, since, captured, holds⟩ := covered
  refine ⟨step.frame.keeper.trans keeper, ?_⟩
  cases step.outcome safe.armed safe.isOpen with
  | plain captured' pending changed =>
    exact ⟨since, captured'.trans captured, holds.imp pending id⟩
  | @capture capture captures scene pending =>
    refine ⟨since ++ [capture], ?_, ?_⟩
    · rw [captures.captured, captured, List.append_assoc]
    · rcases holds with waits | ⟨before, mem, own⟩
      · refine (pending waits).imp id fun own => ⟨capture, ?_, own.trans keeper⟩
        exact List.mem_append_right _ List.mem_cons_self
      · exact .inr ⟨before, List.mem_append_left _ mem, own⟩

private theorem Covered.run (safe : a.Safe) (pending : a.Pending)
    (run : Relation.ReflTransGen (Step policy) a b) : Covered a b := by
  induction run with
  | refl => exact ⟨rfl, [], (List.append_nil _).symm, .inl pending⟩
  | tail run step ih => exact ih.step (safe.run run) step

end Runs

section Documents

variable {policy : RetryPolicy α} {s a b c : Archive α}

/-- Snapshots that were put down since the beginning were taken by saves, and snapshots that saves
hold were put down, or held at the beginning. -/
structure Faithful (policy : RetryPolicy α) (s a : Archive α) : Prop where
  taken : ∀ capture ∈ a.captured, ∃ b c, Relation.ReflTransGen (Step policy) s b ∧
    Step policy b c ∧ Relation.ReflTransGen (Step policy) c a ∧ Captures b c capture
  held : ∀ save ∈ a.saves, ∀ snapshot ∈ save.stage.snapshot?,
    (∃ capture ∈ a.captured, capture.party = save.party ∧ capture.snapshot = snapshot) ∨
      ∃ earlier ∈ s.saves, earlier.party = save.party ∧ snapshot ∈ earlier.stage.snapshot?

omit [Scalar α] in
private theorem Records.quiet (captured : b.captured = a.captured)
    (saves : ∀ save ∈ b.saves, save ∈ a.saves ∨ save.stage.snapshot? = none) : Records a b := by
  refine .nothing captured fun save mem snapshot holds => ?_
  rcases saves save mem with old | nothing
  · exact ⟨save, old, rfl, holds⟩
  · cases nothing.symm.trans holds

omit [Scalar α] in
private theorem records_of_begun {party : Party} (captured : b.captured = a.captured)
    (saves : b.saves = a.saves ++ [.opening party]) : Records a b := by
  refine .quiet captured fun save mem => ?_
  rw [saves] at mem
  refine (List.mem_append.mp mem).imp id fun new => ?_
  obtain rfl := List.mem_singleton.mp new
  rfl

omit [Scalar α] in
private theorem records_advance (a : Archive α) (next : Debouncer Nat) :
    Records a (a.advance next) := by
  unfold advance
  split
  · exact records_of_begun rfl rfl
  · exact .quiet rfl fun save mem => .inl mem

private theorem records_goOn {before after : List (SceneSave α)} {save : SceneSave α}
    (under : a.saves = before ++ save :: after) (lock : SaveLock)
    (answer : save.stage.ask.Answer) :
    Records a (a.goOn policy before save after lock answer) := by
  by_cases opens : save.stage = .opening .scene
  · obtain ⟨party, stage⟩ := save
    obtain rfl : stage = .opening .scene := opens
    obtain ⟨capture, -, captures⟩ := exists_captures_goOn policy under lock answer
    exact .capture captures
  · refine .nothing (captured_goOn_of_not_opening opens before after lock answer) ?_
    intro other mem snapshot holds
    rw [under]
    have aside (mem : other ∈ before ++ after) : ∃ earlier ∈ before ++ save :: after,
        earlier.party = other.party ∧ snapshot ∈ earlier.stage.snapshot? :=
      ⟨other, mem_around.mpr (.inr mem), rfl, holds⟩
    unfold goOn at mem
    cases goes : (save.stage.resume policy a.bench answer).1 with
    | more next =>
      rw [goes] at mem
      rcases mem_around.mp mem with rfl | other_mem
      · rcases SaveStage.snapshot?_resume policy a.bench goes holds with held | ⟨opens', -⟩
        · exact ⟨save, mem_around.mpr (.inl rfl), rfl, held⟩
        · exact absurd opens' opens
      · exact aside other_mem
    | done result =>
      rw [goes, proceed, (endSave_eq _ save.party).2.1] at mem
      exact aside mem

private theorem Step.records (step : Step policy a b) : Records a b := by
  cases step with
  | change change => cases change <;> exact .quiet rfl fun save mem => .inl mem
  | advance moved => exact records_advance a _
  | look waiting inbox => exact records_advance a _
  | saveNow party other idle => exact records_of_begun rfl rfl
  | goOn answer under answered => exact records_goOn under _ answer
  | flush | elapse | await | elsewhere => exact .quiet rfl fun save mem => .inl mem

private theorem Start.faithful (start : s.Start) : Faithful policy s s := by
  refine ⟨fun capture mem => ?_, fun save mem snapshot holds => .inr ⟨save, mem, rfl, holds⟩⟩
  rw [start.captured] at mem
  cases mem

private theorem Faithful.step (faithful : Faithful policy s a)
    (run : Relation.ReflTransGen (Step policy) s a) (step : Step policy a b) :
    Faithful policy s b := by
  have old : ∀ capture ∈ a.captured, ∃ a' b', Relation.ReflTransGen (Step policy) s a' ∧
      Step policy a' b' ∧ Relation.ReflTransGen (Step policy) b' b ∧ Captures a' b' capture := by
    intro capture mem
    obtain ⟨a', b', before, here, after, captures⟩ := faithful.taken capture mem
    exact ⟨a', b', before, here, after.tail step, captures⟩
  cases step.records with
  | nothing captured held =>
    rw [captured.symm] at old
    refine ⟨old, fun save mem snapshot holds => ?_⟩
    obtain ⟨earlier, mem, party, holds⟩ := held save mem snapshot holds
    rw [captured, ← party]
    exact faithful.held earlier mem snapshot holds
  | @capture capture captures =>
    obtain ⟨before, after, next, was, now, newly⟩ := captures.saves
    constructor
    · intro other mem
      rw [captures.captured] at mem
      rcases List.mem_append.mp mem with earlier | new
      · exact old other earlier
      · obtain rfl := List.mem_singleton.mp new
        exact ⟨a, b, run, step, .refl, captures⟩
    · intro save mem snapshot holds
      rw [captures.captured]
      rw [now] at mem
      rcases mem_around.mp mem with rfl | other
      · obtain rfl := Option.some.inj (newly.symm.trans holds)
        exact .inl ⟨capture, List.mem_append_right _ List.mem_cons_self, rfl, rfl⟩
      · have there : save ∈ a.saves := by
          rw [was]
          exact mem_around.mpr (.inr other)
        refine (faithful.held save there snapshot holds).imp ?_ id
        rintro ⟨capture', mem, same⟩
        exact ⟨capture', List.mem_append_left _ mem, same⟩

private theorem Start.faithful_run (start : s.Start)
    (run : Relation.ReflTransGen (Step policy) s a) : Faithful policy s a := by
  induction run with
  | refl => exact start.faithful
  | tail run step ih => exact ih.step run step

/-- In every order of steps, a scene of which no snapshot was taken last is pending: a trigger
waits, the deadline is set, or a save that the debouncer began has still to take its snapshot.  What
was put down as taken is what saves took: each step puts down the snapshot of one save, a document
of the present scene, or none is taken; and a save that has waited takes one as soon as it goes on.
A change, whatever saves are under way, stays pending until the debouncer's own save takes a
snapshot. -/
theorem no_change_unsaved (start : s.Start) (run : Relation.ReflTransGen (Step policy) s a) :
    (a.scene ≠ a.lastCaptured → a.Pending) ∧
    Faithful policy s a ∧
    (∀ b, Step policy a b → Records a b) ∧
    (∀ before party after lock answer, a.saves = before ++ .opening party :: after →
      ∃ capture : Capture α, capture.party = party ∧
        Captures a (a.goOn policy before (.opening party) after lock answer) capture) ∧
    ∀ b c, Change a b → b.scene ≠ a.scene → Relation.ReflTransGen (Step policy) b c →
      ∃ since, c.captured = b.captured ++ since ∧
        (c.Pending ∨ ∃ capture ∈ since, capture.party = c.keeper) := by
  have safe := start.safe.run run
  refine ⟨safe.pending, start.faithful_run run, fun b step => step.records,
    fun before party after lock answer under => exists_captures_goOn policy under lock answer,
    fun b c change changed later => ?_⟩
  have pending : b.Pending := by
    cases change.outcome safe.armed safe.isOpen with
    | plain captured pending changed' => exact changed' changed
    | capture captures scene pending => exact absurd scene changed
  have step : Step policy a b := .change change
  obtain ⟨keeper, since⟩ := Covered.run (safe.step step) pending later
  rw [keeper]
  exact since

end Documents

section Sample

def blankArchive : Archive Float :=
  { bench := ⟨0, .ofCanvas Canvas.blank, Metrics.none, 0⟩
    saver := ⟨true, SaveLock.free, ⟨.idle ⟨100, 200⟩, 0, false⟩, ⟨.idle ⟨50, 50⟩, 1, false⟩⟩
    saves := []
    origin := Scene.blank
    captured := [] }

/-- A call has captured the blank scene and is still to send it. -/
def sendingBlank : Archive Float :=
  (blankArchive.beginSave (.call 0)).goOn .standard [] (.opening (.call 0)) []
    ⟨some (.call 0), []⟩ ()

def owlAdded : Archive Float :=
  let owl : Element Float :=
    ⟨⟨"owl"⟩, ⟨8.0, 8.0, 64.0, 32.0⟩, none, .image (Image.placeholder "owl")⟩
  sendingBlank.putStore (Store.Operation.perform sendingBlank.bench.store
    (.updateScene fun scene => { scene with elements := [owl] }))

def owlDue : Archive Float :=
  owlAdded.advance ({ owlAdded.debouncer with inbox := [] }.receive 0 .trigger)

private theorem sendingBlank_reached :
    Relation.ReflTransGen (Step .standard) blankArchive sendingBlank := by
  have begins : Step .standard blankArchive (blankArchive.beginSave (.call 0)) :=
    .saveNow blankArchive (.call 0) nofun nofun
  have captures : Step .standard (blankArchive.beginSave (.call 0)) sendingBlank := by
    apply Step.goOn
    · rfl
    · exact .lock rfl
  exact (Relation.ReflTransGen.single begins).tail captures

theorem owl_stays_pending :
    blankArchive.Start ∧
      (∃ snapshot, sendingBlank.captured = [⟨.call 0, Scene.blank, snapshot⟩] ∧
        snapshot.document = Document.ofScene Scene.blank ∧
        sendingBlank.saves = [⟨.call 0, .sending (.scene snapshot) 0⟩]) ∧
      owlAdded.scene ≠ owlAdded.lastCaptured ∧ owlAdded.Pending ∧
      .trigger ∉ owlDue.debouncer.inbox ∧ owlDue.Pending := by
  have start : blankArchive.Start := ⟨rfl, rfl, rfl, rfl⟩
  have begins : Step .standard blankArchive (blankArchive.beginSave (.call 0)) :=
    .saveNow blankArchive (.call 0) nofun nofun
  have change : Change sendingBlank owlAdded := .operate sendingBlank _
  have dirty : owlAdded.scene ≠ owlAdded.lastCaptured := by decide
  have looks : Step .standard owlAdded owlDue := .look rfl rfl
  obtain ⟨-, -, -, takes, -⟩ := no_change_unsaved start (.single begins)
  obtain ⟨capture, party, captures⟩ := takes [] (.call 0) [] ⟨some (.call 0), []⟩ () rfl
  have taken : sendingBlank.captured = [capture] := captures.captured
  have blank : capture.scene = Scene.blank := captures.scene
  obtain ⟨pending, -⟩ := no_change_unsaved start (sendingBlank_reached.tail (.change change))
  obtain ⟨-, -, -, -, covers⟩ := no_change_unsaved start sendingBlank_reached
  have changed : owlAdded.scene ≠ sendingBlank.scene := by decide
  obtain ⟨since, captured, holds⟩ :=
    covers owlAdded owlDue change changed (Relation.ReflTransGen.single looks)
  obtain rfl : since = [] := List.self_eq_append_right.mp captured
  refine ⟨start, ⟨capture.snapshot, ?_, captures.document, ?_⟩, dirty, pending dirty, by decide, ?_⟩
  · rw [taken, ← party, ← blank]
  · obtain rfl : _ = capture := List.cons.inj taken |>.1
    rfl
  · exact holds.resolve_right fun ⟨_, mem, _⟩ => absurd mem List.not_mem_nil

end Sample

end Archive

end PromptCanvas
