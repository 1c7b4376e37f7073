import Mathlib.Data.List.Forall2
import PromptCanvas.Proofs.Run.Delivery

/-!
Results that come from several streams, late, repeatedly, or for other elements.

An element waits until the first result that may be meant for it, and no longer.  What is delivered
otherwise is passed over, and leaves the store as it is.
-/

set_option autoImplicit false
set_option relaxedAutoImplicit false

namespace PromptCanvas

/-- A result, and the key under which it is delivered. -/
structure Arrival where
  key : Key
  event : RunEvent
  deriving Repr, DecidableEq

namespace Arrival

/-- Whether the result may be meant for the element under whose key it comes. -/
def fits (a : Arrival) : Bool := a.event.concerns a.key

/-- The result may be meant for its element, and none that came earlier under its key was. -/
def Leads (a : Arrival) (earlier : List Arrival) : Prop :=
  a.fits = true ∧ ∀ b ∈ earlier, b.key = a.key → b.fits = false

end Arrival

/-- What results leave alone of an element. -/
structure Element.SameFrame {α : Type} (e e' : Element α) : Prop where
  key : e'.key = e.key
  rect : e'.rect = e.rect
  refId : e'.refId = e.refId
  prompt : e'.image?.map Image.prompt = e.image?.map Image.prompt
  other : e.image? = none → e' = e

section Plain

variable {α : Type}

namespace Element

private theorem sameFrame_refl (e : Element α) : e.SameFrame e :=
  ⟨rfl, rfl, rfl, rfl, fun _ => rfl⟩

private theorem SameFrame.trans {e f g : Element α} (ef : e.SameFrame f) (fg : f.SameFrame g) :
    e.SameFrame g := by
  refine ⟨fg.key.trans ef.key, fg.rect.trans ef.rect, fg.refId.trans ef.refId,
    fg.prompt.trans ef.prompt, fun none => ?_⟩
  obtain rfl := ef.other none
  exact fg.other none

private theorem sameFrame_mapImage {change : Image α → Image α} (e : Element α)
    (keeps : ∀ image, (change image).prompt = image.prompt) : e.SameFrame (e.mapImage change) := by
  obtain ⟨key, rect, refId, content⟩ := e
  cases content with
  | image image => exact ⟨rfl, rfl, rfl, congrArg some (keeps image), nofun⟩
  | generator | shape | text => exact sameFrame_refl _

end Element

namespace Scene

/-- The status of the image at a place of the stack, if there is one. -/
def statusAt? (s : Scene α) (place : Nat) : Option ImageStatus :=
  (s.elements[place]?.bind Element.image?).map Image.status

end Scene

end Plain

variable {α : Type} [Scalar α]

private theorem RunEvent.status_deliver_ne (event : RunEvent) (image : Image α) :
    (event.deliver image).status ≠ .running := by
  cases event <;> simp [RunEvent.deliver]

theorem RunEvent.isRunning_mapImage_deliver (event : RunEvent) (e : Element α) :
    (e.mapImage event.deliver).isRunning = false := by
  obtain ⟨key, rect, refId, content⟩ := e
  cases content with
  | image image =>
    simpa [Element.mapImage, Element.isRunning, Content.mapImage, Content.isRunning] using
      event.status_deliver_ne image
  | generator | shape | text => rfl

theorem RunEvent.prompt_deliver (event : RunEvent) (image : Image α) :
    (event.deliver image).prompt = image.prompt := by
  cases event <;> rfl

namespace Store

def receive (s : Store α) (arrivals : List Arrival) : Store α :=
  arrivals.foldl (fun s a => (s.deliver a.key a.event).2) s

/-- The delivery behind the first `n` of some gives the image at a place another status. -/
def TurnsAt (s : Store α) (arrivals : List Arrival) (place n : Nat) : Prop :=
  (s.receive (arrivals.take (n + 1))).scene.statusAt? place ≠
    (s.receive (arrivals.take n)).scene.statusAt? place

variable {s : Store α} {key : Key} {event : RunEvent}

private theorem receive_append (s : Store α) (first second : List Arrival) :
    s.receive (first ++ second) = (s.receive first).receive second :=
  List.foldl_append

private theorem receive_concat (s : Store α) (earlier : List Arrival) (a : Arrival) :
    s.receive (earlier ++ [a]) = ((s.receive earlier).deliver a.key a.event).2 := by
  rw [receive_append]
  rfl

theorem isRunning_deliver (s : Store α) (key other : Key) (event : RunEvent) :
    (s.deliver key event).2.scene.isRunning other =
      (s.scene.isRunning other && !(decide (key = other) && event.concerns key)) := by
  rw [deliver_eq]
  split
  · next wanted =>
    obtain ⟨concerned, -⟩ := Bool.and_eq_true_iff.mp wanted
    rw [scene_withScene, Scene.isRunning_eq]
    by_cases same : key = other
    · subst same
      rw [Scene.image?_modify_mapImage]
      cases s.scene.image? key with
      | none => simp [concerned]
      | some image => simp [concerned, event.status_deliver_ne image]
    · rw [Scene.image?_modify_of_ne (Ne.symm same), ← Scene.isRunning_eq]
      simp [same]
  · next unwanted =>
    by_cases same : key = other
    · subst same
      cases concerned : event.concerns key with
      | false => simp
      | true => simpa [concerned] using unwanted
    · simp [same]

private theorem isRunning_receive (s : Store α) (arrivals : List Arrival) (key : Key) :
    (s.receive arrivals).scene.isRunning key = true ↔
      s.scene.isRunning key = true ∧ ∀ b ∈ arrivals, b.key = key → b.fits = false := by
  induction arrivals generalizing s with
  | nil => simp [receive]
  | cons a rest ih =>
    have step : (s.receive (a :: rest)) = (s.deliver a.key a.event).2.receive rest := rfl
    rw [step, ih, isRunning_deliver, List.forall_mem_cons]
    cases fits : a.event.concerns a.key <;> simp [Arrival.fits, fits, and_assoc]

private theorem indexOf?_deliver (s : Store α) (key other : Key) (event : RunEvent) :
    (s.deliver key event).2.scene.indexOf? other = s.scene.indexOf? other := by
  rw [deliver_eq]
  split
  · rw [scene_withScene, Scene.indexOf?_modify]
  · rfl

private theorem indexOf?_receive (s : Store α) (arrivals : List Arrival) (key : Key) :
    (s.receive arrivals).scene.indexOf? key = s.scene.indexOf? key := by
  induction arrivals generalizing s with
  | nil => rfl
  | cons a rest ih => exact (ih (s.deliver a.key a.event).2).trans (indexOf?_deliver s _ _ _)

private theorem deliver_of_wanted (concerned : event.concerns key = true)
    (waits : s.scene.isRunning key = true) :
    ∃ place e, s.scene.indexOf? key = some place ∧ s.scene.elements[place]? = some e ∧
      e.isRunning = true ∧
      s.deliver key event = (event.effect, s.withScene
        { s.scene with elements := s.scene.elements.set place (e.mapImage event.deliver) }) := by
  have delivered := deliver_eq s key event
  rw [concerned, waits, Bool.and_self, if_pos rfl] at delivered
  cases found : s.scene.get? key with
  | none => simp [Scene.isRunning, found] at waits
  | some e =>
    obtain ⟨place, index, here, set⟩ :=
      Scene.changeFirst_eq_set (fun e => e.mapImage event.deliver) found
    have named : e.key = key := by simpa using List.find?_some found
    have same : { e.mapImage event.deliver with key } = e.mapImage event.deliver := by
      rw [← named]
      rfl
    refine ⟨place, e, index, here, by simpa [Scene.isRunning, found] using waits, ?_⟩
    rw [delivered, Scene.modify, set, same]

private theorem deliver_of_unwanted
    (unwanted : ¬ (event.concerns key = true ∧ s.scene.isRunning key = true)) :
    s.deliver key event = (.ignored, s) := by
  rw [deliver_eq, if_neg]
  simpa [Bool.and_eq_true] using unwanted

/-- Behind earlier deliveries a result is wanted if it is the first and its element waited at the
start. -/
private theorem wanted_iff_leads (s : Store α) (earlier : List Arrival) (a : Arrival) :
    (a.event.concerns a.key = true ∧ (s.receive earlier).scene.isRunning a.key = true) ↔
      s.scene.isRunning a.key = true ∧ a.Leads earlier := by
  rw [isRunning_receive]
  exact and_left_comm

private theorem sameFrame_deliver (s : Store α) (key : Key) (event : RunEvent) :
    List.Forall₂ Element.SameFrame s.scene.elements (s.deliver key event).2.scene.elements := by
  rw [deliver_eq]
  split
  · rw [scene_withScene]
    refine Scene.forall₂_changeFirst Element.sameFrame_refl fun e found => ?_
    obtain rfl : e.key = key := by simpa using List.find?_some found
    exact e.sameFrame_mapImage event.prompt_deliver
  · exact List.forall₂_same.mpr fun e _ => e.sameFrame_refl

private theorem sameFrame_receive (s : Store α) (arrivals : List Arrival) :
    List.Forall₂ Element.SameFrame s.scene.elements (s.receive arrivals).scene.elements := by
  induction arrivals generalizing s with
  | nil => exact List.forall₂_same.mpr fun e _ => e.sameFrame_refl
  | cons a rest ih =>
    exact forall₂_trans (fun _ _ _ same next => same.trans next) (sameFrame_deliver s _ _)
      (ih (s.deliver _ _).2)

omit [Scalar α] in
private theorem statusAt?_of_isRunning {place : Nat} {e : Element α}
    (here : s.scene.elements[place]? = some e) (running : e.isRunning = true) :
    s.scene.statusAt? place = some .running := by
  obtain ⟨key, rect, refId, content⟩ := e
  cases content with
  | image image =>
    have status : image.status = .running := of_decide_eq_true running
    simp [Scene.statusAt?, here, Element.image?, Content.image?, status]
  | generator | shape | text => cases running

omit [Scalar α] in
private theorem statusAt?_ne_of_not_isRunning {place : Nat} {e : Element α}
    (here : s.scene.elements[place]? = some e) (idle : e.isRunning = false) :
    s.scene.statusAt? place ≠ some .running := by
  obtain ⟨key, rect, refId, content⟩ := e
  cases content with
  | image image =>
    have status : image.status ≠ .running := of_decide_eq_false idle
    simpa [Scene.statusAt?, here, Element.image?, Content.image?] using status
  | generator | shape | text => simp [Scene.statusAt?, here, Element.image?, Content.image?]

private theorem statusAt?_deliver_ne_iff (s : Store α) (key : Key) (event : RunEvent)
    (place : Nat) :
    (s.deliver key event).2.scene.statusAt? place ≠ s.scene.statusAt? place ↔
      (event.concerns key = true ∧ s.scene.isRunning key = true) ∧
        s.scene.indexOf? key = some place := by
  by_cases wanted : event.concerns key = true ∧ s.scene.isRunning key = true
  · obtain ⟨at_place, e, index, here, running, delivered⟩ := deliver_of_wanted wanted.1 wanted.2
    have inside : at_place < s.scene.elements.length := by
      by_contra outside
      simp [List.getElem?_eq_none (Nat.not_lt.mp outside)] at here
    have there : (s.deliver key event).2.scene.elements[at_place]? =
        some (e.mapImage event.deliver) := by
      rw [delivered, scene_withScene]
      simp [inside]
    by_cases same : at_place = place
    · subst same
      have before := statusAt?_of_isRunning here running
      have after := statusAt?_ne_of_not_isRunning there (event.isRunning_mapImage_deliver e)
      rw [before]
      exact ⟨fun _ => ⟨wanted, index⟩, fun _ => after⟩
    · have still : (s.deliver key event).2.scene.statusAt? place = s.scene.statusAt? place := by
        rw [delivered, scene_withScene]
        simp [Scene.statusAt?, List.getElem?_set_ne same]
      have apart : s.scene.indexOf? key ≠ some place := by
        rw [index]
        exact fun eq => same (Option.some.inj eq)
      exact ⟨fun turned => absurd still turned, fun h => absurd h.2 apart⟩
  · rw [deliver_of_unwanted wanted]
    exact ⟨fun turned => absurd rfl turned, fun h => absurd h.1 wanted⟩

private theorem turnsAt_iff (s : Store α) (arrivals : List Arrival) (place n : Nat) :
    s.TurnsAt arrivals place n ↔
      ∃ a, arrivals[n]? = some a ∧ s.scene.isRunning a.key = true ∧
        a.Leads (arrivals.take n) ∧ s.scene.indexOf? a.key = some place := by
  unfold TurnsAt
  cases here : arrivals[n]? with
  | none =>
    have short : arrivals.length ≤ n := List.getElem?_eq_none_iff.mp here
    simp [List.take_of_length_le short, List.take_of_length_le (Nat.le_succ_of_le short)]
  | some a =>
    have more : arrivals.take (n + 1) = arrivals.take n ++ [a] := by
      rw [List.take_add_one, here]
      rfl
    rw [more, receive_concat, statusAt?_deliver_ne_iff, wanted_iff_leads, indexOf?_receive]
    simp [and_assoc]

/-- Two results of which each is the first that may be meant for the element at one place are
one. -/
private theorem turnsAt_unique {arrivals : List Arrival} {place n m : Nat}
    (turn : s.TurnsAt arrivals place n) (other : s.TurnsAt arrivals place m) : n = m := by
  -- The later one of two would come behind a result that may be meant for its element.
  have not_before : ∀ {i j : Nat}, s.TurnsAt arrivals place i → s.TurnsAt arrivals place j →
      ¬ i < j := by
    intro i j first second before
    obtain ⟨a, at_i, -, leads, index⟩ := (turnsAt_iff s arrivals place i).mp first
    obtain ⟨b, -, -, alone, index'⟩ := (turnsAt_iff s arrivals place j).mp second
    have here := Scene.key_of_indexOf? index
    have here' := Scene.key_of_indexOf? index'
    have same : a.key = b.key := Option.some.inj (here.symm.trans here')
    have earlier : a ∈ arrivals.take j := by
      have at_take : (arrivals.take j)[i]? = some a := by
        rw [List.getElem?_take, if_pos before, at_i]
      exact List.mem_of_getElem? at_take
    have passed := alone.2 a earlier same
    rw [leads.1] at passed
    cases passed
  have le := Nat.not_lt.mp (not_before turn other)
  have ge := Nat.not_lt.mp (not_before other turn)
  omega

/-- Whatever is delivered in whatever order, the first result that may be meant for an element
decides an element that waited at the start, and only that element changes; every other call is
ignored and leaves the store as it is.  So no image turns twice, and keys, boxes, reference ids,
prompts and the stacking stay. -/
theorem first_result_wins (s : Store α) (arrivals : List Arrival) :
    (∀ earlier a later, arrivals = earlier ++ a :: later →
      let before := s.receive earlier
      (s.scene.isRunning a.key = true ∧ a.Leads earlier →
        ∃ place e, before.scene.indexOf? a.key = some place ∧
          before.scene.elements[place]? = some e ∧ e.isRunning = true ∧
          before.deliver a.key a.event = (a.event.effect, before.withScene
            { before.scene with
              elements := before.scene.elements.set place (e.mapImage a.event.deliver) })) ∧
      (¬ (s.scene.isRunning a.key = true ∧ a.Leads earlier) →
        before.deliver a.key a.event = (.ignored, before))) ∧
    (∀ place n, s.TurnsAt arrivals place n ↔
      ∃ a, arrivals[n]? = some a ∧ s.scene.isRunning a.key = true ∧
        a.Leads (arrivals.take n) ∧ s.scene.indexOf? a.key = some place) ∧
    (∀ place n m, s.TurnsAt arrivals place n → s.TurnsAt arrivals place m → n = m) ∧
    List.Forall₂ Element.SameFrame s.scene.elements (s.receive arrivals).scene.elements := by
  refine ⟨fun earlier a later _ => ⟨fun leads => ?_, fun none => ?_⟩,
    turnsAt_iff s arrivals, fun _ _ _ => turnsAt_unique, sameFrame_receive s arrivals⟩
  · obtain ⟨concerned, waits⟩ := (wanted_iff_leads s earlier a).mpr leads
    exact deliver_of_wanted concerned waits
  · exact deliver_of_unwanted fun wanted => none ((wanted_iff_leads s earlier a).mp wanted)

def twoWaiting : Store Float :=
  let waiting (name : String) : Element Float :=
    ⟨⟨name⟩, ⟨8.0, 8.0, 64.0, 32.0⟩, none, .image (Image.placeholder name)⟩
  .ofCanvas { Canvas.blank with scene := ⟨[waiting "fox", waiting "owl"], 1⟩ }

/-- A result for the owl that comes to the fox, a failure of the fox, and its image, too late. -/
def foxArrivals : List Arrival :=
  [⟨⟨"fox"⟩, .imageError "lost" (some "owl")⟩,
    ⟨⟨"fox"⟩, .imageError "no paint" none⟩,
    ⟨⟨"fox"⟩, .imageDone ⟨"a1", "h1", "https://assets/a1.png", none, none⟩ (some "fox")⟩]

theorem fox_stays_failed :
    let failed := twoWaiting.receive (foxArrivals.take 2)
    twoWaiting.TurnsAt foxArrivals 0 1 ∧ ¬ twoWaiting.TurnsAt foxArrivals 0 2 ∧
      ∀ a ∈ foxArrivals[2]?, failed.deliver a.key a.event = (.ignored, failed) := by
  intro failed
  obtain ⟨calls, turns, once, -⟩ := first_result_wins twoWaiting foxArrivals
  have turned : twoWaiting.TurnsAt foxArrivals 0 1 := by
    refine (turns 0 1).mpr ⟨_, rfl, by decide, ⟨rfl, by decide⟩, by decide⟩
  refine ⟨turned, fun again => ?_, fun a here => ?_⟩
  · exact absurd (once 0 1 2 turned again) (by decide)
  · obtain rfl := Option.some.inj here
    refine (calls (foxArrivals.take 2) _ [] rfl).2 fun leads => ?_
    have passed := leads.2.2 ⟨⟨"fox"⟩, .imageError "no paint" none⟩ (by decide) rfl
    cases passed

end Store

end PromptCanvas
