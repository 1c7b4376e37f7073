import PromptCanvas.Proofs.Store.Operations

/-!
Operations that fail leave no trace.

The operations of a scene and of a store say what becomes of it.  Here they are written once more as
what they do to it in place: each look, check and change in its turn, where a failure leaves behind
all that was changed before it.  Nothing was, for every check comes before the first change.
-/

set_option autoImplicit false
set_option relaxedAutoImplicit false

namespace PromptCanvas

namespace Store

variable {α : Type}

/-- The scene is another, which is announced with the next revision; all else is as it was. -/
structure Rescened (s s' : Store α) (scene : Scene α) : Prop where
  canvas : s'.canvas = { s.canvas with scene }
  revision : s'.revision = s.revision + 1
  announced : s'.announced = s.announced ++ [⟨.scene, s.revision + 1⟩]

private theorem rescened_withScene (s : Store α) (scene : Scene α) :
    s.Rescened (s.withScene scene) scene := ⟨rfl, rfl, rfl⟩

private theorem notify_ofScene_decide (s : Store α) (changed : Prop) [Decidable changed] :
    s.notify (.ofScene changed) = if changed then s.notify (.ofScene true) else s := by
  by_cases change : changed
  · rw [if_pos change, decide_eq_true change]
  · rw [if_neg change, decide_eq_false change]
    rfl

end Store

/-- What is done to a state in place.  A failure leaves the state as it is at that moment. -/
abbrev InPlace (σ β : Type) := EStateM CanvasError σ β

/-- An operation that says what becomes of a state, and what does the same in place.  Both are
refused with one error just if something bars them, and then the state in place is as it was. -/
structure Atomic {σ β : Type} (operation : σ → Except CanvasError (β × σ)) (act : InPlace σ β)
    (s : σ) (barred : Prop) (error : CanvasError) (does : β → σ → Prop) : Prop where
  refused : barred → operation s = .error error ∧ act.run s = .error error s
  done : ¬ barred → ∃ result s',
    operation s = .ok (result, s') ∧ act.run s = .ok result s' ∧ does result s'

namespace Scene

variable {α : Type} {s : Scene α} {key : Key}

/-- The element of a key with what is below and above it; none below has the key. -/
structure Cut (s : Scene α) (key : Key) (below : List (Element α)) (e : Element α)
    (above : List (Element α)) : Prop where
  elements : s.elements = below ++ e :: above
  keyed : e.key = key
  first : ∀ other ∈ below, other.key ≠ key

/-- One element is another, with the key and in the place of the one that it was. -/
def Replaces (key : Key) (change : Element α → Element α) (s s' : Scene α) : Prop :=
  ∃ below e above, s.Cut key below e above ∧
    s' = { s with elements := below ++ { change e with key } :: above }

def Loses (key : Key) (s : Scene α) (e : Element α) (s' : Scene α) : Prop :=
  ∃ below above, s.Cut key below e above ∧ s' = { s with elements := below ++ above }

/-- The reference id of an element: the one that it has, or else the next one, which it has from
then on. -/
inductive Refers (key : Key) (s : Scene α) : Nat → Scene α → Prop
  | known {below above : List (Element α)} {e : Element α} {id : Nat}
      (cut : s.Cut key below e above) (has : e.refId = some id) : Refers key s id s
  | assigned {below above : List (Element α)} {e : Element α}
      (cut : s.Cut key below e above) (without : e.refId = none) :
      Refers key s s.nextRefId
        ⟨below ++ { e with refId := some s.nextRefId } :: above, refAfter s.nextRefId⟩

private theorem not_contains_iff : s.contains key = false ↔ key ∉ s.keys := by
  rw [← contains_iff, Bool.not_eq_true]

private theorem exists_cut (has : key ∈ s.keys) : ∃ below e above, s.Cut key below e above := by
  obtain ⟨e, found⟩ := Option.isSome_iff_exists.mp (contains_iff.mpr has)
  obtain ⟨here, below, above, cut, first⟩ := List.find?_eq_some_iff_append.mp found
  exact ⟨below, e, above, cut, by simpa using here, by simpa using first⟩

namespace Cut

variable {below above : List (Element α)} {e : Element α} (cut : s.Cut key below e above)
include cut

private theorem get? : s.get? key = some e :=
  List.find?_eq_some_iff_append.mpr
    ⟨by simpa using cut.keyed, below, above, cut.elements, by simpa using cut.first⟩

private theorem contains : s.contains key = true := by
  rw [Scene.contains, cut.get?]
  rfl

private theorem eraseP : (s.elements.eraseP fun e => e.key = key) = below ++ above := by
  have none : ∀ other ∈ below, ¬ decide (other.key = key) = true := by simpa using cut.first
  rw [cut.elements, List.eraseP_append_right _ none,
    List.eraseP_cons_of_pos (by simpa using cut.keyed)]

private theorem indexOf? : s.indexOf? key = some below.length := by
  have none : below.findIdx? (fun e => e.key = key) = none := by simpa using cut.first
  rw [Scene.indexOf?, cut.elements, List.findIdx?_append, none, List.findIdx?_cons,
    if_pos (decide_eq_true cut.keyed)]
  simp

private theorem getElem? : s.elements[below.length]? = some e := by
  rw [cut.elements, List.getElem?_append_right (Nat.le_refl _), Nat.sub_self]
  rfl

private theorem set (other : Element α) :
    s.elements.set below.length other = below ++ other :: above := by
  rw [cut.elements, List.set_append_right _ _ (Nat.le_refl _), Nat.sub_self, List.set_cons_zero]

private theorem eraseIdx : s.elements.eraseIdx below.length = below ++ above := by
  rw [cut.elements, List.eraseIdx_append_of_length_le (Nat.le_refl _), Nat.sub_self,
    List.eraseIdx_cons_zero]

private theorem modify (change : Element α → Element α) :
    s.modify key change = { s with elements := below ++ { change e with key } :: above } := by
  obtain ⟨place, index, -, changed⟩ := changeFirst_eq_set change cut.get?
  have same : some below.length = some place := cut.indexOf?.symm.trans index
  rw [Scene.modify, changed, ← Option.some.inj same, cut.set]

end Cut

end Scene

namespace InPlace

section Runs

variable {σ β γ : Type}

@[simp] theorem run_throw (error : CanvasError) (s : σ) :
    (throw error : InPlace σ β).run s = .error error s := rfl

@[simp] theorem run_map (f : β → γ) (act : InPlace σ β) (s : σ) :
    (f <$> act).run s =
      match act.run s with
      | .ok result s' => .ok (f result) s'
      | .error error s' => .error error s' := by
  rw [map_eq_pure_bind, EStateM.run_bind]
  cases act.run s <;> rfl

end Runs

section Scenes

variable {α : Type}

def locate (key : Key) : InPlace (Scene α) (Nat × Element α) := do
  let s ← get
  match s.indexOf? key with
  | none => throw (.elementNotFound key)
  | some place =>
    match s.elements[place]? with
    | none => throw (.elementNotFound key) -- never so: the place is one of the list
    | some e => pure (place, e)

def put (place : Nat) (e : Element α) : InPlace (Scene α) Unit :=
  modify fun s => { s with elements := s.elements.set place e }

def insert (e : Element α) : InPlace (Scene α) Key := do
  if (← get).contains e.key then throw (.duplicateKey e.key)
  modify fun s => { s with elements := s.elements ++ [e] }
  pure e.key

def remove (key : Key) : InPlace (Scene α) (Element α) := do
  let (place, e) ← locate key
  modify fun s => { s with elements := s.elements.eraseIdx place }
  pure e

/-- Puts what a change makes of an element into its place, under its key. -/
def update (key : Key) (change : Element α → Element α) : InPlace (Scene α) Unit := do
  let (place, e) ← locate key
  put place { change e with key }

/-- The reference id of an element, assigned if it has none yet. -/
def ensureRefId (key : Key) : InPlace (Scene α) Nat := do
  let (place, e) ← locate key
  match e.refId with
  | some id => pure id
  | none =>
    let id := (← get).nextRefId
    -- the first of two changes that belong together: nothing may fail from here on
    modify fun s => { s with refCounter := Scene.refAfter id }
    put place { e with refId := some id }
    pure id

variable {s : Scene α} {key : Key}

private theorem run_locate {below above : List (Element α)} {e : Element α}
    (cut : s.Cut key below e above) : (locate key).run s = .ok (below.length, e) s := by
  simp [locate, cut.indexOf?, cut.getElem?]

private theorem run_locate_of_missing (missing : key ∉ s.keys) :
    (locate key).run s = .error (.elementNotFound key) s := by
  have nowhere : s.indexOf? key = none := by simpa [Scene.indexOf?, Scene.keys] using missing
  simp [locate, nowhere]

private theorem atomic_insert (s : Scene α) (e : Element α) :
    Atomic (fun s => (s.insert e).map (e.key, ·)) (insert e) s (e.key ∈ s.keys)
      (.duplicateKey e.key) fun key s' =>
        key = e.key ∧ s' = { s with elements := s.elements ++ [e] } where
  refused taken := by simp [Scene.insert, insert, Scene.contains_iff.mpr taken, Except.map]
  done free := by
    have absent := Scene.not_contains_iff.mpr free
    refine ⟨e.key, _, ?_, ?_, rfl, rfl⟩
    · simp [Scene.insert, absent, Except.map]
    · simp [insert, absent]

private theorem atomic_of_cut {β : Type} {operation : Scene α → Except CanvasError (β × Scene α)}
    {act : InPlace (Scene α) β} {does : β → Scene α → Prop}
    (absent : s.contains key = false → operation s = .error (.elementNotFound key))
    (located : ∃ next, act = locate key >>= next)
    (there : ∀ below e above, s.Cut key below e above → ∃ result s',
      operation s = .ok (result, s') ∧ act.run s = .ok result s' ∧ does result s') :
    Atomic operation act s (key ∉ s.keys) (.elementNotFound key) does where
  refused missing := by
    obtain ⟨next, rfl⟩ := located
    refine ⟨absent (Scene.not_contains_iff.mpr missing), ?_⟩
    rw [EStateM.run_bind, run_locate_of_missing missing]
  done present := by
    obtain ⟨below, e, above, cut⟩ := Scene.exists_cut (not_not.mp present)
    exact there below e above cut

private theorem atomic_remove (s : Scene α) (key : Key) :
    Atomic (fun s => s.remove key) (remove key) s (key ∉ s.keys)
      (.elementNotFound key) (s.Loses key) := by
  refine atomic_of_cut (fun absent => ?_) ⟨_, rfl⟩ fun below e above cut => ?_
  · simp [Scene.remove, Scene.get?_eq_none_iff.mpr absent]
  · refine ⟨e, { s with elements := below ++ above }, ?_, ?_, below, above, cut, rfl⟩
    · simp [Scene.remove, cut.get?, cut.eraseP]
    · simp [remove, run_locate cut, cut.eraseIdx]

private theorem atomic_update (s : Scene α) (key : Key) (change : Element α → Element α) :
    Atomic (fun s => (s.update key change).map ((), ·)) (update key change) s
      (key ∉ s.keys) (.elementNotFound key) fun _ s' => s.Replaces key change s' := by
  refine atomic_of_cut (fun absent => ?_) ⟨_, rfl⟩ fun below e above cut => ?_
  · simp [Scene.update, absent, Except.map]
  · refine ⟨(), { s with elements := below ++ { change e with key } :: above }, ?_, ?_,
      below, e, above, cut, rfl⟩
    · simp [Scene.update, cut.contains, cut.modify, Except.map]
    · simp [update, put, run_locate cut, cut.set]

private theorem atomic_ensureRefId (s : Scene α) (key : Key) :
    Atomic (fun s => s.ensureRefId key) (ensureRefId key) s (key ∉ s.keys)
      (.elementNotFound key) (s.Refers key) := by
  refine atomic_of_cut (fun absent => ?_) ⟨_, rfl⟩ fun below e above cut => ?_
  · simp [Scene.ensureRefId, Scene.get?_eq_none_iff.mpr absent]
  · cases ref : e.refId with
    | some id =>
      refine ⟨id, s, ?_, ?_, .known cut ref⟩
      · simp [Scene.ensureRefId, cut.get?, ref]
      · simp [ensureRefId, run_locate cut, ref]
    | none =>
      refine ⟨s.nextRefId, _, ?_, ?_, .assigned cut ref⟩
      · simp [Scene.ensureRefId, cut.get?, ref, cut.modify, cut.keyed]
      · simp [ensureRefId, put, run_locate cut, ref, cut.set]

end Scenes

section Stores

variable {α : Type}

/-- What is done to the scene of a store, of which nothing is said yet. -/
def onScene {β : Type} (act : InPlace (Scene α) β) : InPlace (Store α) β := fun s =>
  match act s.canvas.scene with
  | .ok result scene => .ok result { s with canvas := { s.canvas with scene } }
  | .error error scene => .error error { s with canvas := { s.canvas with scene } }

def announce : InPlace (Store α) Unit := modify fun s => s.notify (.ofScene true)

def updateElement (key : Key) (change : Element α → Element α) : InPlace (Store α) Unit := do
  onScene (update key change)
  announce

/-- The token that refers to an element; an id assigned for it is a change of the scene. -/
def mention (key : Key) : InPlace (Store α) String := do
  let before := (← get).scene.nextRefId
  let id ← onScene (ensureRefId key)
  let after := (← get).scene.nextRefId
  if after ≠ before then announce
  pure (Reference.mention id)

/-- Puts a new element at the free place nearest to the anchor. -/
def insertPlaced [Scalar α] (key : Key) (content : Content α) (w h : α)
    (anchor : Option (Point α)) : InPlace (Store α) Key := do
  let box := (← get).freeBox w h anchor
  let placed ← onScene (insert (Element.make key content box))
  announce
  pure placed

variable {s : Store α} {key : Key}

private theorem run_onScene {β : Type} {act : InPlace (Scene α) β} {result : β} {scene : Scene α}
    (ran : act.run s.scene = .ok result scene) :
    (onScene act).run s = .ok result { s with canvas := { s.canvas with scene } } := by
  show onScene act s = _
  unfold onScene
  rw [show act s.canvas.scene = .ok result scene from ran]

private theorem run_onScene_of_error {β : Type} {act : InPlace (Scene α) β} {error : CanvasError}
    (failed : act.run s.scene = .error error s.scene) : (onScene act).run s = .error error s := by
  show onScene act s = _
  unfold onScene
  rw [show act s.canvas.scene = .error error s.canvas.scene from failed]

/-- What is done to a store is refused as what it does to the scene is, if nothing is changed before
and nothing is refused after. -/
private theorem atomic_of_scene {β γ : Type} {error : CanvasError} {barred : Prop}
    {onScenes : Scene α → Except CanvasError (β × Scene α)} {sceneAct : InPlace (Scene α) β}
    {sceneDoes : β → Scene α → Prop}
    (atomic : Atomic onScenes sceneAct s.scene barred error sceneDoes)
    {operation : Store α → Except CanvasError (γ × Store α)} {act : InPlace (Store α) γ}
    {does : γ → Store α → Prop} {next : β → InPlace (Store α) γ}
    (finish : β → Scene α → γ × Store α)
    (operation_eq : operation s = (onScenes s.scene).map fun found => finish found.1 found.2)
    (run_eq : act.run s = (onScene sceneAct >>= next).run s)
    (finishes : ∀ result scene, (next result).run { s with canvas := { s.canvas with scene } } =
      .ok (finish result scene).1 (finish result scene).2)
    (does_finish : ∀ result scene, sceneDoes result scene →
      does (finish result scene).1 (finish result scene).2) :
    Atomic operation act s barred error does := by
  constructor
  case refused =>
    -- the scene that the refused act leaves is the one of the store, so that the store is itself
    intro bars
    obtain ⟨eq, ran⟩ := atomic.refused bars
    rw [operation_eq, eq, run_eq, EStateM.run_bind, run_onScene_of_error ran]
    exact ⟨rfl, rfl⟩
  case done =>
    intro free
    obtain ⟨result, scene, eq, ran, done⟩ := atomic.done free
    refine ⟨_, _, ?_, ?_, does_finish result scene done⟩
    · rw [operation_eq, eq]
      rfl
    · rw [run_eq, EStateM.run_bind, run_onScene ran]
      exact finishes result scene

private theorem atomic_updateElement (s : Store α) (key : Key) (change : Element α → Element α) :
    Atomic (fun s => (s.updateElement key change).map ((), ·)) (updateElement key change) s
      (key ∉ s.scene.keys) (.elementNotFound key) fun _ s' =>
        ∃ scene, s.scene.Replaces key change scene ∧ s.Rescened s' scene := by
  refine atomic_of_scene (atomic_update s.scene key change)
    (fun _ scene => ((), s.withScene scene)) ?_ rfl (fun _ _ => rfl)
    fun _ scene replaces => ⟨scene, replaces, s.rescened_withScene scene⟩
  unfold Store.updateElement Store.scene
  cases s.canvas.scene.update key change <;> rfl

private theorem atomic_mention (s : Store α) (key : Key) :
    Atomic (fun s => s.mention key) (mention key) s (key ∉ s.scene.keys) (.elementNotFound key)
      fun token s' => ∃ id scene, s.scene.Refers key id scene ∧ token = Reference.mention id ∧
        (scene = s.scene ∧ s' = s ∨ scene ≠ s.scene ∧ s.Rescened s' scene) := by
  let noted (scene : Scene α) : Store α :=
    if scene.nextRefId ≠ s.scene.nextRefId then s.withScene scene
    else { s with canvas := { s.canvas with scene } }
  have rescened {scene : Scene α} (changed : scene.nextRefId ≠ s.scene.nextRefId) :
      s.Rescened (noted scene) scene := by
    simp only [noted]
    rw [if_pos changed]
    exact s.rescened_withScene scene
  refine atomic_of_scene (atomic_ensureRefId s.scene key)
    (fun id scene => (Reference.mention id, noted scene)) ?_ rfl (fun id scene => ?_)
    fun id scene refers => ⟨id, scene, refers, rfl, ?_⟩
  · unfold Store.mention Canvas.mention Store.scene
    cases s.canvas.scene.ensureRefId key with
    | error error => rfl
    | ok found =>
      exact congrArg (fun s' => Except.ok (Reference.mention found.1, s'))
        (Store.notify_ofScene_decide _ _)
  · by_cases same : scene.nextRefId = s.canvas.scene.nextRefId
    · simp [noted, same, Store.scene]
    · simp [noted, same, Store.scene, announce, Store.withScene]
  · cases refers with
    | known cut has => exact .inl ⟨rfl, if_neg (not_not.mpr rfl)⟩
    | assigned cut without =>
      have other := s.scene.max_refAfter_ne
      exact .inr ⟨fun same => other (congrArg Scene.nextRefId same), rescened other⟩

private theorem atomic_insertPlaced [Scalar α] (s : Store α) (key : Key) (content : Content α)
    (w h : α) (anchor : Option (Point α)) :
    Atomic (fun s => (s.insertPlaced key content w h anchor).map (key, ·))
      (insertPlaced key content w h anchor) s (key ∈ s.scene.keys) (.duplicateKey key)
      fun placed s' => placed = key ∧ s.Rescened s'
        { s.scene with
          elements := s.scene.elements ++ [Element.make key content (s.freeBox w h anchor)] } := by
  let new := Element.make key content (s.freeBox w h anchor)
  refine atomic_of_scene (atomic_insert s.scene new)
    (fun placed scene => (placed, s.withScene scene)) ?_ rfl (fun _ _ => rfl)
    fun placed scene inserts => ?_
  · have new_key : new.key = key := rfl
    rw [Store.insertPlaced_eq, Scene.insert, new_key]
    split <;> rfl
  · obtain ⟨rfl, rfl⟩ := inserts
    exact ⟨rfl, s.rescened_withScene _⟩

end Stores

end InPlace

/-- An operation that names a key is refused just if no element has the key, or where a new one
would come, if one has it already; and a refused one leaves the scene and the whole store as they
were.  One that is not refused concerns the element of the key alone, and a store announces that as
one change of its scene.  To ask for a reference id that is there already changes nothing. -/
theorem refused_operations_leave_no_trace {α : Type} [Scalar α] :
    (∀ (s : Scene α) (e : Element α),
      Atomic (fun s => (s.insert e).map (e.key, ·)) (InPlace.insert e) s (e.key ∈ s.keys)
        (.duplicateKey e.key)
        fun placed s' => placed = e.key ∧ s' = { s with elements := s.elements ++ [e] }) ∧
    (∀ (s : Scene α) (key : Key),
      Atomic (fun s => s.remove key) (InPlace.remove key) s (key ∉ s.keys)
        (.elementNotFound key) (s.Loses key)) ∧
    (∀ (s : Scene α) (key : Key) (change : Element α → Element α),
      Atomic (fun s => (s.update key change).map ((), ·)) (InPlace.update key change) s
        (key ∉ s.keys) (.elementNotFound key) fun _ s' => s.Replaces key change s') ∧
    (∀ (s : Scene α) (key : Key),
      Atomic (fun s => s.ensureRefId key) (InPlace.ensureRefId key) s (key ∉ s.keys)
        (.elementNotFound key) (s.Refers key)) ∧
    (∀ (s : Store α) (key : Key) (change : Element α → Element α),
      Atomic (fun s => (s.updateElement key change).map ((), ·))
        (InPlace.updateElement key change) s (key ∉ s.scene.keys) (.elementNotFound key) fun _ s' =>
          ∃ scene, s.scene.Replaces key change scene ∧ s.Rescened s' scene) ∧
    (∀ (s : Store α) (key : Key) (content : Content α) (w h : α) (anchor : Option (Point α)),
      Atomic (fun s => (s.insertPlaced key content w h anchor).map (key, ·))
        (InPlace.insertPlaced key content w h anchor) s (key ∈ s.scene.keys) (.duplicateKey key)
        fun placed s' => placed = key ∧ s.Rescened s'
          { s.scene with
            elements := s.scene.elements ++ [Element.make key content (s.freeBox w h anchor)] }) ∧
    ∀ (s : Store α) (key : Key),
      Atomic (fun s => s.mention key) (InPlace.mention key) s (key ∉ s.scene.keys)
        (.elementNotFound key) fun token s' =>
          ∃ id scene, s.scene.Refers key id scene ∧ token = Reference.mention id ∧
            (scene = s.scene ∧ s' = s ∨ scene ≠ s.scene ∧ s.Rescened s' scene) :=
  ⟨InPlace.atomic_insert, InPlace.atomic_remove, InPlace.atomic_update, InPlace.atomic_ensureRefId,
    InPlace.atomic_updateElement, InPlace.atomic_insertPlaced, InPlace.atomic_mention⟩

end PromptCanvas
