import PromptCanvas.Proofs.Autosave.Ledger
import PromptCanvas.Proofs.Process.FreshName

/-!
Saves of the scene take turns.

The log of a ledger is a row of blocks, one for each save that got the lock.  All of a block but its
captured scene and its name is over before the next one begins, so what is sent later was captured
later.
-/

set_option autoImplicit false
set_option relaxedAutoImplicit false

namespace PromptCanvas

open Relation (ReflTransGen)

/-- A save that got the lock: the ledger when it was about to capture the scene, what it captured,
the failures that it tried again after, and the answer to its last attempt. -/
structure Turn (α : Type) where
  moment : Ledger α
  party : Party
  snapshot : Snapshot α
  failures : List ServiceError
  last : Except ServiceError Unit

namespace Turn

variable {α : Type} (turn : Turn α)

def attempt (reply : Except ServiceError Unit) : List (Entry α) :=
  [.sent turn.party turn.snapshot, .answered turn.party reply]

def opened : List (Entry α) :=
  .captured turn.party turn.snapshot :: turn.failures.flatMap fun e => turn.attempt (.error e)

def entries : List (Entry α) :=
  turn.opened ++ turn.attempt turn.last ++
    [.ended turn.party (turn.last.map fun _ => turn.snapshot.report)]

/-- All earlier turns are over when a turn begins.  It captures the scene of that moment, a revision
that is no later, and the next fresh name. -/
structure Begins (earlier : List (Turn α)) : Prop where
  log : turn.moment.log = earlier.flatMap entries
  document : turn.snapshot.document = Document.ofScene turn.moment.archive.scene
  revision : turn.snapshot.report.revision ≤ turn.moment.archive.bench.store.revision
  name : turn.snapshot.idempotencyKey = freshName turn.moment.archive.bench.issued

inductive Course : SaveStage α → List (Entry α) → Prop
  | sending {tries : Nat} :
      Course (.sending (.scene turn.snapshot) tries)
        (turn.opened ++ [.sent turn.party turn.snapshot])
  | resting {tries wake : Nat} : Course (.resting (.scene turn.snapshot) tries wake) turn.opened
  | closing {failure : Option ServiceError} : turn.last = failure.elim (.ok ()) .error →
      Course (.closing (.scene turn.snapshot) failure) (turn.opened ++ turn.attempt turn.last)

variable {turn} {stage next : SaveStage α} {noted : List (Entry α)}

private theorem Course.isPrefix (course : turn.Course stage noted) : noted <+: turn.entries := by
  unfold entries
  cases course with
  | sending =>
    rw [List.append_assoc]
    exact (List.prefix_append_right_inj _).mpr (List.cons_prefix_cons.mpr ⟨rfl, List.nil_prefix⟩)
  | resting =>
    rw [List.append_assoc]
    exact List.prefix_append _ _
  | closing last => exact List.prefix_append _ _

private theorem opened_concat (turn : Turn α) (e : ServiceError) :
    ({ turn with failures := turn.failures ++ [e] }).opened =
      turn.opened ++ turn.attempt (.error e) := by
  simp [opened, attempt]

end Turn

/-- The turns that were taken on the way from `s` to `l`, earliest first: a run leads to the moment
of each, and from the last one to `l`. -/
inductive Taken {α : Type} [Scalar α] (policy : RetryPolicy α) (s : Ledger α) :
    List (Turn α) → Ledger α → Prop
  | none {l : Ledger α} : ReflTransGen (Ledger.Step policy) s l → Taken policy s [] l
  | next {turns : List (Turn α)} {turn : Turn α} {l : Ledger α} :
      Taken policy s turns turn.moment → turn.Begins turns →
        ReflTransGen (Ledger.Step policy) turn.moment l →
        turn.moment.archive.bench.issued < l.archive.bench.issued →
        Taken policy s (turns ++ [turn]) l

namespace SaveStage

variable {α : Type} [Scalar α] {policy : RetryPolicy α} {b : Workbench α}

private theorem attempted_cases (policy : RetryPolicy α) (cargo : Cargo α) (tries : Nat)
    (b : Workbench α) (reply : Except ServiceError Unit) :
    (∃ e wake, reply = .error e ∧
      (attempted policy cargo tries b reply).1 = .resting cargo tries wake) ∨
    ∃ failure, reply = failure.elim (.ok ()) .error ∧
      (attempted policy cargo tries b reply).1 = .closing cargo failure := by
  unfold attempted
  split
  · exact .inr ⟨none, rfl, rfl⟩
  · next e =>
    split
    · exact .inl ⟨e, _, rfl, rfl⟩
    · exact .inr ⟨some e, rfl, rfl⟩

private theorem resume_ne (stage : SaveStage α) (answer : stage.ask.Answer) :
    (stage.resume policy b answer).1 ≠ .more stage := by
  have moves (cargo : Cargo α) (tries : Nat) (reply : Except ServiceError Unit) :
      (attempted policy cargo tries b reply).1 ≠ .sending cargo tries := by
    rcases attempted_cases policy cargo tries b reply with ⟨e, wake, -, rests⟩ | ⟨f, -, closes⟩
    · rw [rests]
      exact nofun
    · rw [closes]
      exact nofun
  cases stage with
  | opening kind => cases kind <;> exact nofun
  | sending cargo tries =>
    cases cargo <;> exact fun same => moves _ tries answer (Progress.more.inj same)
  | resting cargo tries wake =>
    intro same
    cases Progress.more.inj same
  | closing cargo failure => exact nofun

private theorem issued_resume (stage : SaveStage α) (answer : stage.ask.Answer) :
    b.issued ≤ (stage.resume policy b answer).2.issued := by
  have kept (cargo : Cargo α) (tries : Nat) (reply : Except ServiceError Unit) :
      b.issued ≤ (attempted policy cargo tries b reply).2.issued := by
    unfold attempted
    split
    · exact Nat.le_refl _
    · split <;> exact Nat.le_refl _
  cases stage with
  | opening kind => cases kind <;> exact Nat.le_succ _
  | sending cargo tries => cases cargo <;> exact kept _ tries answer
  | resting cargo tries wake => exact Nat.le_refl _
  | closing cargo failure => exact Nat.le_refl _

end SaveStage

namespace Turn.Course

variable {α : Type} [Scalar α] {policy : RetryPolicy α} {b : Workbench α} {turn : Turn α}
  {save : SceneSave α} {noted : List (Entry α)} {progress : Progress (SaveStage α) (SaveResult α)}

private theorem step (course : turn.Course save.stage noted) (party : save.party = turn.party)
    {answer : save.stage.ask.Answer} (goes : (save.stage.resume policy b answer).1 = progress) :
    (∃ next failures last, progress = .more next ∧
      { turn with failures, last }.Course next (noted ++ save.notes answer progress)) ∨
    ∃ result, progress = .done result ∧ noted ++ save.notes answer progress = turn.entries := by
  obtain ⟨p, stage⟩ := save
  obtain rfl : p = turn.party := party
  cases course with
  | @sending tries =>
    refine .inl ?_
    rcases SaveStage.attempted_cases policy (.scene turn.snapshot) tries b answer with
      ⟨e, wake, rfl, rests⟩ | ⟨failure, heard, closes⟩
    · obtain rfl := goes.symm.trans (congrArg Progress.more rests)
      refine ⟨_, turn.failures ++ [e], turn.last, rfl, ?_⟩
      rw [List.append_assoc]
      change Course _ _ (turn.opened ++ turn.attempt (.error e))
      rw [← opened_concat]
      exact .resting
    · obtain rfl := goes.symm.trans (congrArg Progress.more closes)
      refine ⟨_, turn.failures, answer, rfl, ?_⟩
      rw [List.append_assoc]
      exact .closing heard
  | @resting tries wake =>
    obtain rfl := goes.symm
    exact .inl ⟨_, turn.failures, turn.last, rfl, .sending⟩
  | @closing failure last =>
    obtain rfl := goes.symm
    refine .inr ⟨_, rfl, ?_⟩
    have noted : SceneSave.notes ⟨turn.party, .closing (.scene turn.snapshot) failure⟩ answer
        (.done ⟨.scene turn.snapshot, failure⟩) =
          [.ended turn.party (turn.last.map fun _ => turn.snapshot.report)] := by
      rw [last]
      cases failure <;> rfl
    rw [entries, ← noted]
    rfl

omit [Scalar α] in
private theorem not_opening (course : turn.Course save.stage noted) :
    save.stage ≠ .opening .scene := by
  intro opens
  rw [opens] at course
  cases course

private theorem lock_eq {a : Archive α} {lock : SaveLock} {next : SaveStage α}
    {answer : save.stage.ask.Answer} (course : turn.Course save.stage noted)
    (goes : (save.stage.resume policy b answer).1 = .more next)
    (answers : a.Answers save.party save.stage.ask lock) : lock = a.saver.lock := by
  obtain ⟨p, stage⟩ := save
  cases course with
  | sending =>
    cases answers
    rfl
  | resting =>
    cases answers
    rfl
  | closing last => cases goes

end Turn.Course

namespace Debouncer

variable {ι : Type} {d next : Debouncer ι}

private theorem isRunning_of_isWaiting (waiting : d.isWaiting = true) : d.isRunning = false := by
  unfold isWaiting at waiting
  unfold isRunning
  split at waiting
  · next phase => rw [phase]
  · cases waiting

private theorem isRunning_of_advance {now : Nat} (step : d.advance? now = some next) :
    d.isRunning = false := by
  refine isRunning_of_isWaiting ?_
  unfold advance? at step
  split at step
  · assumption
  · cases step

private theorem isRunning_send (d : Debouncer ι) (signal : Signal ι) :
    (d.send signal).isRunning = d.isRunning := by
  unfold send
  split <;> rfl

end Debouncer

namespace Autosaver

private theorem isRunning_signal (a : Autosaver) (kind : SaveKind) (signal : Signal Nat) :
    (a.signal kind signal).2.scene.debouncer.isRunning = a.scene.debouncer.isRunning := by
  cases kind with
  | scene => exact Debouncer.isRunning_send _ signal
  | view => rfl

private theorem isRunning_hear (a : Autosaver) (announced : List Announcement) :
    (a.hear announced).scene.debouncer.isRunning = a.scene.debouncer.isRunning := by
  unfold hear
  induction a.triggers announced generalizing a with
  | nil => rfl
  | cons kind rest ih => exact (ih _).trans (isRunning_signal a kind .trigger)

end Autosaver

namespace SaveLock

variable {l lock : SaveLock} {party : Party}

private theorem holder_of_granted (granted : l.request party = (true, lock)) :
    lock.holder = some party ∧ (l.holder = none ∨ l.holder = some party) := by
  unfold request at granted
  split at granted
  · next free =>
    obtain rfl := (Prod.mk.inj granted).2
    exact ⟨rfl, .inl free⟩
  · next holder held =>
    split at granted
    · next same =>
      obtain rfl := (Prod.mk.inj granted).2
      rw [held, same]
      exact ⟨rfl, .inr rfl⟩
    · split at granted <;> cases (Prod.mk.inj granted).1

private theorem holder_of_refused (refused : l.request party = (false, lock)) :
    lock.holder = l.holder := by
  unfold request at refused
  split at refused
  · cases (Prod.mk.inj refused).1
  · split at refused
    · cases (Prod.mk.inj refused).1
    · split at refused <;> obtain rfl := (Prod.mk.inj refused).2 <;> rfl

end SaveLock

namespace Archive

variable {α : Type} {a b : Archive α}

inductive Joins (a b : Archive α) : Prop
  | nobody : b.saves = a.saves → Joins a b
  | other {party : Party} : b.saves = a.saves ++ [.opening party] → party ≠ a.keeper →
      (∀ save ∈ a.saves, save.party ≠ party) → Joins a b
  | keeper : b.saves = a.saves ++ [.opening a.keeper] → a.debouncer.isRunning = false →
      b.debouncer.isRunning = true → Joins a b

private theorem Joins.mem (joins : Joins a b) :
    (∀ save ∈ a.saves, save ∈ b.saves) ∧
      ∀ save ∈ b.saves, save ∈ a.saves ∨ save.stage = .opening .scene := by
  have added {party : Party} (saves : b.saves = a.saves ++ [.opening party]) :
      (∀ save ∈ a.saves, save ∈ b.saves) ∧
        ∀ save ∈ b.saves, save ∈ a.saves ∨ save.stage = .opening .scene := by
    rw [saves]
    constructor
    · exact fun save mem => List.mem_append_left _ mem
    · intro save mem
      rcases List.mem_append.mp mem with old | new
      · exact .inl old
      · exact .inr (congrArg SceneSave.stage (List.mem_singleton.mp new))
  cases joins with
  | nobody saves =>
    rw [saves]
    exact ⟨fun _ mem => mem, fun _ mem => .inl mem⟩
  | other saves => exact added saves
  | keeper saves => exact added saves

structure Aside (a b : Archive α) : Prop where
  keeper : b.keeper = a.keeper
  holder : b.saver.lock.holder = a.saver.lock.holder
  revision : a.bench.store.revision ≤ b.bench.store.revision
  running : a.debouncer.isRunning = true → b.debouncer.isRunning = true
  joins : Joins a b

private theorem aside_of_told {saver : Autosaver} {bench : Workbench α} (told : a.saver.Told saver)
    (running : saver.scene.debouncer.isRunning = a.debouncer.isRunning)
    (revision : a.bench.store.revision ≤ bench.store.revision) :
    Aside a { a with bench, saver } :=
  ⟨congrArg Party.task told.task, congrArg SaveLock.holder told.lock, revision,
    running.trans, .nobody rfl⟩

private theorem aside_advance {next : Debouncer Nat} (idle : a.debouncer.isRunning = false) :
    Aside a (a.advance next) := by
  unfold advance
  split
  · next runs => exact ⟨rfl, rfl, Nat.le_refl _, fun _ => runs, .keeper rfl idle runs⟩
  · have nothing (running : a.debouncer.isRunning = true) : next.isRunning = true :=
      absurd (idle.symm.trans running) Bool.false_ne_true
    exact ⟨rfl, rfl, Nat.le_refl _, nothing, .nobody rfl⟩

variable [Scalar α] {policy : RetryPolicy α}

private theorem revision_change (change : Change a b) :
    a.bench.store.revision ≤ b.bench.store.revision := by
  have later {store : Store α} {kinds : List ChangeKind}
      (announces : a.bench.store.Announces store kinds) :
      a.bench.store.revision ≤ store.revision := by
    rw [announces.revision]
    split <;> omega
  cases change with
  | operate operation =>
    obtain ⟨kinds, announces⟩ := Store.announces_perform (s := a.bench.store) operation
    have grown := later announces
    exact grown
  | apply operation covers =>
    have grown := later (Store.announces_notify covers)
    exact grown

private theorem not_isPrefix_goOn {before after : List (SceneSave α)} {save : SceneSave α}
    {lock : SaveLock} {answer : save.stage.ask.Answer} (under : a.saves = before ++ save :: after) :
    ¬ a.saves <+: (a.goOn policy before save after lock answer).saves := by
  intro more
  rw [under, goOn] at more
  cases goes : (save.stage.resume policy a.bench answer).1 with
  | more stage =>
    rw [goes] at more
    obtain ⟨same, -⟩ := List.cons_prefix_cons.mp ((List.prefix_append_right_inj before).mp more)
    refine SaveStage.resume_ne save.stage answer (goes.trans ?_)
    exact congrArg Progress.more (congrArg SceneSave.stage same).symm
  | done result =>
    rw [goes, proceed, (endSave_eq _ _).2.1] at more
    have shorter := more.length_le
    simp only [List.length_append, List.length_cons] at shorter
    omega

private theorem Step.aside (step : Step policy a b) (more : a.saves <+: b.saves) : Aside a b := by
  cases step with
  | change change =>
    have revision := revision_change change
    cases change <;>
      exact aside_of_told (Autosaver.told_hear _ _) (Autosaver.isRunning_hear _ _) revision
  | flush waiter =>
    exact aside_of_told (Autosaver.told_signal _ _ _) (Autosaver.isRunning_signal _ _ _)
      (Nat.le_refl _)
  | advance moved => exact aside_advance (Debouncer.isRunning_of_advance moved)
  | look waiting inbox => exact aside_advance (Debouncer.isRunning_of_isWaiting waiting)
  | saveNow party other idle => exact ⟨rfl, rfl, Nat.le_refl _, id, .other rfl other idle⟩
  | await under asks refused =>
    exact ⟨rfl, SaveLock.holder_of_refused refused, Nat.le_refl _, id, .nobody rfl⟩
  | goOn answer under answers => exact absurd more (not_isPrefix_goOn under)
  | elapse | elsewhere => exact ⟨rfl, rfl, Nat.le_refl _, id, .nobody rfl⟩

end Archive

namespace Ledger

variable {α : Type} [Scalar α] {policy : RetryPolicy α} {s l m : Ledger α}

section GoOn

variable (before : List (SceneSave α)) (save : SceneSave α) (after : List (SceneSave α))
  (lock : SaveLock) {answer : save.stage.ask.Answer}

private theorem issued_goOn : l.archive.bench.issued ≤
    (l.goOn policy before save after lock answer).archive.bench.issued := by
  change _ ≤ (l.seen.goOn policy before save after lock answer).bench.issued
  rw [Archive.goOn, (Archive.proceed_eq _ _ _ _ _).1]
  exact SaveStage.issued_resume (b := l.seen.bench) save.stage answer

private theorem keeper_goOn :
    (l.goOn policy before save after lock answer).archive.keeper = l.archive.keeper :=
  (Archive.frame_proceed (l.seen.work policy save lock answer) before save after
    (save.stage.resume policy l.seen.bench answer).1).keeper

private theorem goOn_more {next : SaveStage α}
    (goes : (save.stage.resume policy l.seen.bench answer).1 = .more next) :
    (l.goOn policy before save after lock answer).archive.saves =
        before ++ { save with stage := next } :: after ∧
      (l.goOn policy before save after lock answer).archive.saver =
        { l.archive.saver with lock } := by
  rw [goOn, Archive.goOn, goes]
  exact ⟨rfl, rfl⟩

private theorem goOn_done {result : SaveResult α}
    (goes : (save.stage.resume policy l.seen.bench answer).1 = .done result) :
    (l.goOn policy before save after lock answer).archive.saves = before ++ after ∧
      (save.party ≠ l.archive.keeper →
        (l.goOn policy before save after lock answer).archive.debouncer = l.archive.debouncer) := by
  rw [goOn, Archive.goOn, goes]
  refine ⟨(Archive.endSave_eq _ save.party).2.1, fun other => ?_⟩
  rw [Archive.proceed, Archive.endSave, if_neg]
  · rfl
  · exact other

end GoOn

private theorem issued_step (step : Step policy l m) :
    l.archive.bench.issued ≤ m.archive.bench.issued := by
  cases step with
  | aside step more names => exact names
  | read save mem opens unread granted => exact Nat.le_refl _
  | goOn save answer under answers => exact issued_goOn _ save _ _

/-- Nobody saves twice at a time, and what was read of the store is no later than the store. -/
structure Orderly (l : Ledger α) : Prop where
  parties : (l.archive.saves.map SceneSave.party).Nodup
  keeper : ∀ save ∈ l.archive.saves, save.party = l.archive.keeper →
    l.archive.debouncer.isRunning = true
  read : ∀ revision ∈ l.read, revision ≤ l.archive.bench.store.revision

omit [Scalar α] in
private theorem Start.orderly (start : l.Start) : l.Orderly := by
  constructor
  case parties =>
    rw [start.saves]
    exact List.nodup_nil
  case keeper =>
    rw [start.saves]
    exact nofun
  case read =>
    rw [start.read]
    exact nofun

omit [Scalar α] in
private theorem Orderly.aside {b : Archive α} (orderly : l.Orderly)
    (aside : Archive.Aside l.archive b) : { l with archive := b }.Orderly := by
  obtain ⟨parties, keeper, read⟩ := orderly
  have running (save : SceneSave α) (mem : save ∈ l.archive.saves) (own : save.party = b.keeper) :
      b.debouncer.isRunning = true :=
    aside.running (keeper save mem (own.trans aside.keeper))
  have seen : ∀ revision ∈ l.read, revision ≤ b.bench.store.revision :=
    fun revision mem => Nat.le_trans (read revision mem) aside.revision
  have added {party : Party} (saves : b.saves = l.archive.saves ++ [.opening party])
      (new : ∀ save ∈ l.archive.saves, save.party ≠ party) :
      (b.saves.map SceneSave.party).Nodup := by
    rw [saves, List.map_append]
    refine List.nodup_append.mpr ⟨parties, List.nodup_singleton _, ?_⟩
    intro p mem q last same
    obtain ⟨save, there, rfl⟩ := List.mem_map.mp mem
    exact new save there (same.trans (List.mem_singleton.mp last))
  cases aside.joins with
  | nobody saves =>
    refine ⟨?_, ?_, seen⟩
    · rw [saves]
      exact parties
    · rw [saves]
      exact running
  | other saves other idle =>
    refine ⟨added saves idle, ?_, seen⟩
    intro save mem own
    rw [saves] at mem
    rcases List.mem_append.mp mem with old | new
    · exact running save old own
    · obtain rfl := List.mem_singleton.mp new
      exact absurd (own.trans aside.keeper) other
  | keeper saves idle runs =>
    refine ⟨added saves fun save there own => ?_, fun _ _ _ => runs, seen⟩
    exact Bool.false_ne_true (idle.symm.trans (keeper save there own))

section Saves

variable {before after : List (SceneSave α)} {save other : SceneSave α}

omit [Scalar α]

private theorem Orderly.apart (orderly : l.Orderly)
    (under : l.archive.saves = before ++ save :: after)
    (mem : other ∈ before ++ after) : other.party ≠ save.party := by
  have parties := orderly.parties
  rw [under, List.map_append, List.map_cons] at parties
  have alone := (List.nodup_middle.mp parties).notMem
  rw [← List.map_append] at alone
  intro same
  exact alone (List.mem_map.mpr ⟨other, mem, same⟩)

private theorem Orderly.eq_of_party (orderly : l.Orderly) (mem : save ∈ l.archive.saves)
    (mem' : other ∈ l.archive.saves) (same : other.party = save.party) : other = save := by
  obtain ⟨before, after, under⟩ := List.append_of_mem mem
  rw [under] at mem'
  rcases Archive.mem_around.mp mem' with rfl | apart
  · rfl
  · exact absurd same (orderly.apart under apart)

end Saves

private theorem Orderly.goOn {before after : List (SceneSave α)} {save : SceneSave α}
    {lock : SaveLock} (orderly : l.Orderly) (under : l.archive.saves = before ++ save :: after)
    (answer : save.stage.ask.Answer) :
    (l.goOn policy before save after lock answer).Orderly := by
  have parties := orderly.parties
  rw [under, List.map_append, List.map_cons] at parties
  have was (other : SceneSave α) (mem : other = save ∨ other ∈ before ++ after) :
      other ∈ l.archive.saves := by
    rw [under]
    exact Archive.mem_around.mpr mem
  have keeper_eq : (l.goOn policy before save after lock answer).archive.keeper =
      l.archive.keeper := keeper_goOn before save after lock
  cases goes : (save.stage.resume policy l.seen.bench answer).1 with
  | more next =>
    obtain ⟨saves, saver⟩ := goOn_more before save after lock goes
    refine ⟨?_, ?_, nofun⟩
    · rw [saves, List.map_append, List.map_cons]
      exact parties
    · intro other mem own
      have running (known : SceneSave α) (there : known ∈ l.archive.saves)
          (same : other.party = known.party) :
          (l.goOn policy before save after lock answer).archive.debouncer.isRunning = true := by
        rw [Archive.debouncer, saver]
        exact orderly.keeper known there ((same.symm.trans own).trans keeper_eq)
      rw [saves] at mem
      rcases Archive.mem_around.mp mem with rfl | apart
      · exact running save (was save (.inl rfl)) rfl
      · exact running other (was other (.inr apart)) rfl
  | done result =>
    obtain ⟨saves, debouncer⟩ := goOn_done before save after lock goes
    refine ⟨?_, ?_, nofun⟩
    · rw [saves, List.map_append]
      exact (List.nodup_cons.mp (List.nodup_middle.mp parties)).2
    · intro other mem own
      rw [saves] at mem
      rw [keeper_eq] at own
      have apart := orderly.apart under mem
      rw [debouncer fun same => apart (own.trans same.symm)]
      exact orderly.keeper other (was other (.inr mem)) own

private theorem Orderly.step (orderly : l.Orderly) (step : Step policy l m) : m.Orderly := by
  cases step with
  | aside step more names => exact orderly.aside (step.aside more)
  | read save mem opens unread granted =>
    obtain ⟨parties, keeper, -⟩ := orderly
    refine ⟨parties, keeper, fun revision read => ?_⟩
    obtain rfl := Option.some.inj read
    exact Nat.le_refl _
  | goOn save answer under answers => exact orderly.goOn under answer

end Ledger

namespace Taken

variable {α : Type} [Scalar α] {policy : RetryPolicy α} {s l m : Ledger α} {turns : List (Turn α)}

private theorem tail (taken : Taken policy s turns l) (step : Ledger.Step policy l m) :
    Taken policy s turns m := by
  cases taken with
  | none run => exact .none (run.tail step)
  | next before begins run names =>
    exact .next before begins (run.tail step) (Nat.lt_of_lt_of_le names (Ledger.issued_step step))

private theorem names (taken : Taken policy s turns l) :
    (turns.map fun turn => turn.snapshot.idempotencyKey).Nodup ∧
      ∀ turn ∈ turns, ∃ n < l.archive.bench.issued, turn.snapshot.idempotencyKey = freshName n := by
  induction taken with
  | none run => exact ⟨List.nodup_nil, fun turn mem => absurd mem List.not_mem_nil⟩
  | @next turns turn l before begins run names ih =>
    obtain ⟨nodup, old⟩ := ih
    constructor
    · rw [List.map_append]
      refine List.nodup_append.mpr ⟨nodup, List.nodup_singleton _, ?_⟩
      intro name mem last eq same
      obtain ⟨earlier, there, rfl⟩ := List.mem_map.mp mem
      obtain ⟨n, small, name⟩ := old earlier there
      obtain rfl := List.mem_singleton.mp eq
      have number : n = turn.moment.archive.bench.issued :=
        freshName_injective (name.symm.trans (same.trans begins.name))
      omega
    · intro other mem
      rcases List.mem_append.mp mem with earlier | last
      · obtain ⟨n, small, name⟩ := old other earlier
        exact ⟨n, Nat.lt_trans small names, name⟩
      · obtain rfl := List.mem_singleton.mp last
        exact ⟨_, names, begins.name⟩

private theorem schemaVersion (taken : Taken policy s turns l) :
    ∀ turn ∈ turns, turn.snapshot.document.schemaVersion = Document.currentVersion := by
  induction taken with
  | none run => exact fun turn mem => absurd mem List.not_mem_nil
  | next before begins run names ih =>
    intro turn mem
    rcases List.mem_append.mp mem with earlier | last
    · exact ih turn earlier
    · obtain rfl := List.mem_singleton.mp last
      rw [begins.document]
      rfl

end Taken

namespace Ledger

variable {α : Type} [Scalar α] {policy : RetryPolicy α} {s l m : Ledger α}

/-- Where the saves stand: nobody has the lock or has captured the scene, and all turns are over; or
one of the saves is in its turn, and all others wait. -/
inductive Stands (policy : RetryPolicy α) (s l : Ledger α) : Prop
  | idle {turns : List (Turn α)} : Taken policy s turns l →
      (∀ save ∈ l.archive.saves, save.stage = .opening .scene) →
      l.log = turns.flatMap Turn.entries → Stands policy s l
  | busy {turns : List (Turn α)} (turn : Turn α) (save : SceneSave α) {noted : List (Entry α)} :
      Taken policy s turns turn.moment → turn.Begins turns →
      ReflTransGen (Step policy) turn.moment l →
      turn.moment.archive.bench.issued < l.archive.bench.issued →
      save ∈ l.archive.saves → save.party = turn.party →
      l.archive.saver.lock.holder = some save.party →
      (∀ other ∈ l.archive.saves, other.stage = .opening .scene ∨ other = save) →
      turn.Course save.stage noted → l.log = turns.flatMap Turn.entries ++ noted →
      Stands policy s l

omit [Scalar α] in
private theorem not_granted {save other : SceneSave α} {lock : SaveLock} (orderly : l.Orderly)
    (mem : save ∈ l.archive.saves) (holder : l.archive.saver.lock.holder = some save.party)
    (mem' : other ∈ l.archive.saves) (apart : other ≠ save) :
    l.archive.saver.lock.request other.party ≠ (true, lock) := by
  intro granted
  rcases (SaveLock.holder_of_granted granted).2 with free | own
  · cases holder.symm.trans free
  · have same : other.party = save.party := Option.some.inj (own.symm.trans holder)
    exact apart (orderly.eq_of_party mem mem' same)

omit [Scalar α] in
private theorem eq_of_answers {save other : SceneSave α} {lock : SaveLock} (orderly : l.Orderly)
    (mem : save ∈ l.archive.saves) (holder : l.archive.saver.lock.holder = some save.party)
    (others : ∀ other ∈ l.archive.saves, other.stage = .opening .scene ∨ other = save)
    (mem' : other ∈ l.archive.saves)
    (answers : l.archive.Answers other.party other.stage.ask lock) : other = save := by
  by_contra apart
  have opens := (others other mem').resolve_right apart
  obtain ⟨party, stage⟩ := other
  obtain rfl : stage = .opening .scene := opens
  cases answers with
  | lock granted => exact not_granted orderly mem holder mem' apart granted

private theorem Stands.aside {b : Archive α} (stands : Stands policy s l)
    (aside : Archive.Aside l.archive b) (step : Step policy l { l with archive := b }) :
    Stands policy s { l with archive := b } := by
  obtain ⟨stay, new⟩ := aside.joins.mem
  cases stands with
  | idle taken opening log =>
    refine .idle (taken.tail step) (fun save mem => ?_) log
    exact (new save mem).elim (opening save) id
  | busy turn save taken begins run names mem party holder others course log =>
    refine .busy turn save taken begins (run.tail step)
      (Nat.lt_of_lt_of_le names (issued_step step)) (stay save mem) party
      (aside.holder.trans holder) (fun other mem => ?_) course log
    exact (new other mem).elim (others other) .inl

private theorem stands_of_capture {turns : List (Turn α)} {before after : List (SceneSave α)}
    {party : Party} {lock : SaveLock} (orderly : l.Orderly) (taken : Taken policy s turns l)
    (opening : ∀ save ∈ l.archive.saves, save.stage = .opening .scene)
    (log : l.log = turns.flatMap Turn.entries)
    (under : l.archive.saves = before ++ .opening party :: after)
    (granted : l.archive.saver.lock.request party = (true, lock)) :
    Stands policy s (l.goOn policy before (.opening party) after lock ()) := by
  have step : Step policy l (l.goOn policy before (.opening party) after lock ()) :=
    .goOn (.opening party) () under (.lock granted)
  let snapshot := Snapshot.capture l.seen.bench.store (freshName l.archive.bench.issued)
  let turn : Turn α := ⟨l, party, snapshot, [], .ok ()⟩
  have begins : turn.Begins turns := by
    refine ⟨log, rfl, ?_, rfl⟩
    change l.read.getD l.archive.bench.store.revision ≤ l.archive.bench.store.revision
    cases read : l.read with
    | none => exact Nat.le_refl _
    | some revision => exact orderly.read revision read
  refine .busy turn ⟨party, .sending (.scene snapshot) 0⟩ taken begins
    (.single step) (Nat.lt_succ_self _) ?_ rfl (SaveLock.holder_of_granted granted).1
    (fun other mem => ?_) .sending ?_
  · exact Archive.mem_around.mpr (.inl rfl)
  · rcases Archive.mem_around.mp mem with rfl | apart
    · exact .inr rfl
    · refine .inl (opening other ?_)
      rw [under]
      exact Archive.mem_around.mpr (.inr apart)
  · change l.log ++ _ = _
    rw [log]
    rfl

private theorem stands_of_course {turns : List (Turn α)} {turn : Turn α} {noted : List (Entry α)}
    {before after : List (SceneSave α)} {save : SceneSave α} {lock : SaveLock}
    {answer : save.stage.ask.Answer} (taken : Taken policy s turns turn.moment)
    (begins : turn.Begins turns)
    (run : ReflTransGen (Step policy) turn.moment (l.goOn policy before save after lock answer))
    (names : turn.moment.archive.bench.issued <
      (l.goOn policy before save after lock answer).archive.bench.issued)
    (party : save.party = turn.party) (holder : l.archive.saver.lock.holder = some save.party)
    (waits : ∀ other ∈ before ++ after, other.stage = .opening .scene)
    (course : turn.Course save.stage noted) (log : l.log = turns.flatMap Turn.entries ++ noted)
    (answers : l.archive.Answers save.party save.stage.ask lock) :
    Stands policy s (l.goOn policy before save after lock answer) := by
  have log' {progress : Progress (SaveStage α) (SaveResult α)}
      (goes : (save.stage.resume policy l.seen.bench answer).1 = progress) :
      (l.goOn policy before save after lock answer).log = turns.flatMap Turn.entries ++
        (noted ++ save.notes answer progress) := by
    rw [Ledger.goOn, log, goes, List.append_assoc]
  cases goes : (save.stage.resume policy l.seen.bench answer).1 with
  | more next =>
    rcases course.step party goes with ⟨_, failures, last, eq, course'⟩ | ⟨result, eq, -⟩
    · obtain rfl := Progress.more.inj eq
      obtain ⟨saves, saver⟩ := goOn_more before save after lock goes
      have same : lock = l.archive.saver.lock := course.lock_eq goes answers
      refine .busy { turn with failures, last } { save with stage := next } taken
        ⟨begins.log, begins.document, begins.revision, begins.name⟩ run names ?_ party ?_
        (fun other mem => ?_) course' (log' goes)
      · rw [saves]
        exact Archive.mem_around.mpr (.inl rfl)
      · rw [saver, same]
        exact holder
      · rw [saves] at mem
        exact (Archive.mem_around.mp mem).elim .inr fun apart => .inl (waits other apart)
    · cases eq
  | done result =>
    rcases course.step party goes with ⟨next, failures, last, eq, -⟩ | ⟨_, -, noted⟩
    · cases eq
    · obtain ⟨saves, -⟩ := goOn_done before save after lock goes
      refine .idle (.next taken begins run names) (fun other mem => ?_) ?_
      · rw [saves] at mem
        exact waits other mem
      · rw [log' goes, noted, List.flatMap_append, List.flatMap_singleton]

private theorem Stands.goOn {before after : List (SceneSave α)} {save : SceneSave α}
    {lock : SaveLock} (orderly : l.Orderly) (stands : Stands policy s l)
    (under : l.archive.saves = before ++ save :: after) (answer : save.stage.ask.Answer)
    (answers : l.archive.Answers save.party save.stage.ask lock) :
    Stands policy s (l.goOn policy before save after lock answer) := by
  have there : save ∈ l.archive.saves := by
    rw [under]
    exact Archive.mem_around.mpr (.inl rfl)
  have step : Step policy l (l.goOn policy before save after lock answer) :=
    .goOn save answer under answers
  cases stands with
  | idle taken opening log =>
    obtain ⟨party, stage⟩ := save
    obtain rfl : stage = .opening .scene := opening _ there
    cases answers with
    | lock granted => exact stands_of_capture orderly taken opening log under granted
  | busy turn current taken begins run names mem party holder others course log =>
    obtain rfl := eq_of_answers orderly mem holder others there answers
    refine stands_of_course taken begins (run.tail step)
      (Nat.lt_of_lt_of_le names (issued_step step)) party holder (fun other apart => ?_) course log
      answers
    have known : other ∈ l.archive.saves := by
      rw [under]
      exact Archive.mem_around.mpr (.inr apart)
    refine (others other known).resolve_right fun same => ?_
    exact orderly.apart under apart (congrArg SceneSave.party same)

private theorem Stands.step (orderly : l.Orderly) (stands : Stands policy s l)
    (step : Step policy l m) : Stands policy s m := by
  cases step with
  | aside step more names => exact stands.aside (step.aside more) (.aside step more names)
  | read save mem opens unread granted =>
    have step : Step policy l _ := .read save mem opens unread granted
    cases stands with
    | idle taken opening log => exact .idle (taken.tail step) opening log
    | busy turn current taken begins run names mem' party holder others course log =>
      refine absurd granted (not_granted orderly mem' holder mem fun same => ?_)
      exact course.not_opening (same ▸ opens)
  | goOn save answer under answers => exact stands.goOn orderly under answer answers

private theorem Stands.run (start : s.Start) (run : ReflTransGen (Step policy) s l) :
    l.Orderly ∧ Stands policy s l := by
  induction run with
  | refl =>
    refine ⟨start.orderly, .idle (.none .refl) ?_ start.log⟩
    rw [start.saves]
    exact fun save mem => absurd mem List.not_mem_nil
  | tail run step ih =>
    obtain ⟨orderly, stands⟩ := ih
    exact ⟨orderly.step step, stands.step orderly step⟩

/-- In every order of steps, whatever is answered, the log is a row of turns, and only the last one
may be still under way.  All attempts of a turn send the same scene by the same name, and no two
turns share a name.  Each turn begins when all before it are over and captures the scene of that
moment, so no scene that is sent is older than one sent before.  A report claims no later revision.
-/
theorem saves_take_turns (start : s.Start) (run : ReflTransGen (Step policy) s l) :
    ∃ turns, Taken policy s turns l ∧
      turns.dropLast.flatMap Turn.entries <+: l.log ∧ l.log <+: turns.flatMap Turn.entries ∧
      (turns.map fun turn => turn.snapshot.idempotencyKey).Nodup ∧
      ∀ turn ∈ turns, turn.snapshot.document.schemaVersion = Document.currentVersion := by
  obtain ⟨-, stands⟩ := Stands.run start run
  cases stands with
  | @idle turns taken opening log =>
    refine ⟨turns, taken, ?_, ?_, taken.names.1, taken.schemaVersion⟩
    · obtain ⟨rest, whole⟩ := List.dropLast_prefix turns
      refine ⟨rest.flatMap Turn.entries, ?_⟩
      rw [log, ← List.flatMap_append, whole]
    · exact log ▸ List.prefix_refl _
  | @busy turns turn save noted taken begins run names mem party holder others course log =>
    have taken' := Taken.next taken begins run names
    refine ⟨_, taken', ?_, ?_, taken'.names.1, taken'.schemaVersion⟩
    · rw [List.dropLast_concat, log]
      exact List.prefix_append _ _
    · rw [log, List.flatMap_append, List.flatMap_singleton]
      exact (List.prefix_append_right_inj _).mpr course.isPrefix

section Sample

def blankLedger : Ledger Float := ⟨Archive.blankArchive, none, []⟩

/-- A call is about to save; it has got the lock, and has read the revision. -/
def blankRead : Ledger Float :=
  ⟨(Archive.blankArchive.beginSave (.call 0)).putLock ⟨some (.call 0), []⟩, some 0, []⟩

def owlRead : Ledger Float :=
  let owl : Element Float :=
    ⟨⟨"owl"⟩, ⟨8.0, 8.0, 64.0, 32.0⟩, none, .image (Image.placeholder "owl")⟩
  { blankRead with
    archive := blankRead.archive.putStore (Store.Operation.perform blankRead.archive.bench.store
      (.updateScene fun scene => { scene with elements := [owl] })) }

/-- What the call captures: the owl, with the revision before it. -/
def owlSnapshot : Snapshot Float := ⟨0, Document.ofScene owlRead.archive.scene, freshName 0⟩

def owlStep (l : Ledger Float) (stage : SaveStage Float) (lock : SaveLock)
    (answer : stage.ask.Answer) : Ledger Float :=
  l.goOn .standard [] ⟨.call 0, stage⟩ [] lock answer

def owlSent : Ledger Float := owlStep owlRead (.opening .scene) ⟨some (.call 0), []⟩ ()

def owlResting : Ledger Float :=
  owlStep owlSent (.sending (.scene owlSnapshot) 0) ⟨some (.call 0), []⟩
    (.error (.unavailable "busy"))

def owlWake : Nat := 0 + RetryPolicy.delay (α := Float) .standard 0

def owlWoken : Ledger Float :=
  let a := owlResting.archive
  { owlResting with archive := { a with bench := { a.bench with now := owlWake } } }

def owlSentAgain : Ledger Float :=
  owlStep owlWoken (.resting (.scene owlSnapshot) 0 owlWake) ⟨some (.call 0), []⟩ ()

def owlClosing : Ledger Float :=
  owlStep owlSentAgain (.sending (.scene owlSnapshot) 1) ⟨some (.call 0), []⟩ (.ok ())

def owlSaved : Ledger Float := owlStep owlClosing (.closing (.scene owlSnapshot) none) .free ()

private theorem owlSaved_reached : ReflTransGen (Step .standard) blankLedger owlSaved := by
  have goes {l : Ledger Float} (stage : SaveStage Float) {lock : SaveLock}
      (answer : stage.ask.Answer) (under : l.archive.saves = [⟨.call 0, stage⟩])
      (answers : l.archive.Answers (.call 0) stage.ask lock) :
      Step .standard l (owlStep l stage lock answer) :=
    .goOn ⟨.call 0, stage⟩ answer (under.trans (List.nil_append _).symm) answers
  have begins : Step .standard blankLedger
      { blankLedger with archive := Archive.blankArchive.beginSave (.call 0) } :=
    .aside (.saveNow _ _ nofun nofun) List.nil_prefix (Nat.le_refl _)
  have reads : Step .standard { blankLedger with
      archive := Archive.blankArchive.beginSave (.call 0) } blankRead :=
    .read (.opening (.call 0)) List.mem_cons_self rfl rfl rfl
  have owl : Step .standard blankRead owlRead :=
    .aside (.change (.operate _ _)) (List.prefix_refl _) (Nat.le_refl _)
  have sends : Step .standard owlRead owlSent := goes (.opening .scene) () rfl (.lock rfl)
  have fails : Step .standard owlSent owlResting :=
    goes (.sending (.scene owlSnapshot) 0) _ rfl (.saveScene owlSnapshot)
  have wakes : Step .standard owlResting owlWoken :=
    .aside (.elapse _ _ (Nat.zero_le _)) (List.prefix_refl _) (Nat.le_refl _)
  have sendsAgain : Step .standard owlWoken owlSentAgain :=
    goes (.resting (.scene owlSnapshot) 0 owlWake) () rfl
      (.rest ⟨owlWake, List.mem_cons_self, Nat.le_refl _⟩)
  have arrives : Step .standard owlSentAgain owlClosing :=
    goes (.sending (.scene owlSnapshot) 1) _ rfl (.saveScene owlSnapshot)
  have ends : Step .standard owlClosing owlSaved :=
    goes (.closing (.scene owlSnapshot) none) () rfl .unlock
  exact .head begins (.head reads (.head owl (.head sends (.head fails (.head wakes
    (.head sendsAgain (.head arrives (.single ends))))))))

theorem owl_saved_in_its_turn :
    blankLedger.Start ∧ ReflTransGen (Step .standard) blankLedger owlSaved ∧
      owlSaved.log =
        [.captured (.call 0) owlSnapshot, .sent (.call 0) owlSnapshot,
          .answered (.call 0) (.error (.unavailable "busy")), .sent (.call 0) owlSnapshot,
          .answered (.call 0) (.ok ()), .ended (.call 0) (.ok owlSnapshot.report)] ∧
      ∃ turns, Taken .standard blankLedger turns owlSaved ∧
        turns.dropLast.flatMap Turn.entries <+: owlSaved.log ∧
        owlSaved.log <+: turns.flatMap Turn.entries ∧
        (turns.map fun turn => turn.snapshot.idempotencyKey).Nodup ∧
        ∀ turn ∈ turns, turn.snapshot.document.schemaVersion = Document.currentVersion := by
  have start : blankLedger.Start := ⟨rfl, rfl, rfl, rfl⟩
  exact ⟨start, owlSaved_reached, rfl, saves_take_turns start owlSaved_reached⟩

end Sample

end Ledger

end PromptCanvas
