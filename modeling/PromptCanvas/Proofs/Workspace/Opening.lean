import Mathlib.Data.List.Forall2
import PromptCanvas.Proofs.Document.Sound
import PromptCanvas.Proofs.Run.FirstResult
import PromptCanvas.Workspace

/-!
What opening a workspace does to the images that wait for results.

An image with a run is followed, by one follower.  An image whose run had not begun has failed.
Everything else is as it was saved.
-/

set_option autoImplicit false
set_option relaxedAutoImplicit false

namespace PromptCanvas

section Failing

variable {α : Type} [Scalar α]

def Element.failed (message : String) (e : Element α) : Element α :=
  e.mapImage (RunEvent.deliver (.imageError message none))

namespace Store

variable {s : Store α}

private theorem elements_fail (nodup : s.scene.keys.Nodup) (key : Key) (message : String) :
    (s.fail key message).2.scene.elements = s.scene.elements.map fun e =>
      if e.key = key ∧ e.isRunning = true then e.failed message else e := by
  rw [fail, deliver_eq]
  have concerned : (RunEvent.imageError message none).concerns key = true := rfl
  rw [concerned, Bool.true_and]
  split
  · next waits =>
    rw [scene_withScene, Scene.elements_modify nodup]
    refine List.map_congr_left fun e mem => ?_
    by_cases here : e.key = key
    · subst here
      have running := (Scene.isRunning_of_mem nodup mem).symm.trans waits
      rw [if_pos rfl, if_pos ⟨rfl, running⟩]
      rfl
    · rw [if_neg here, if_neg fun both => here both.1]
  · next rests =>
    refine ((List.map_congr_left fun e mem => if_neg fun both => ?_).trans (List.map_id _)).symm
    obtain ⟨rfl, running⟩ := both
    exact rests ((Scene.isRunning_of_mem nodup mem).trans running)

end Store

end Failing

namespace Workspace

section Plain

variable {α : Type} {scene : Scene α}

/-- How an element of a saved scene counts: it does not wait, or it is an image that waits, with the
run that it knows or without one. -/
private theorem waitingImage?_cases (e : Element α) :
    (e.isRunning = false ∧ waitingImage? e = none) ∨
    ∃ image, e.content = .image image ∧ image.status = .running ∧
      ((∃ id, image.runId = some id ∧ id ≠ "" ∧ waitingImage? e = some (e.key, some id)) ∨
        ((∀ id, image.runId = some id → id = "") ∧ waitingImage? e = some (e.key, none))) := by
  cases running : e.isRunning with
  | false =>
    refine .inl ⟨rfl, ?_⟩
    rw [waitingImage?, running]
    rfl
  | true =>
    refine .inr ?_
    obtain ⟨key, rect, refId, content⟩ := e
    cases content with
    | image image =>
      refine ⟨image, rfl, of_decide_eq_true running, ?_⟩
      have waits : waitingImage? ⟨key, rect, refId, .image image⟩ =
          some (key, image.runId.filter fun id => id ≠ "") := by
        rw [waitingImage?, running]
        rfl
      cases run : image.runId with
      | none =>
        refine .inr ⟨nofun, ?_⟩
        rw [waits, run]
        rfl
      | some id =>
        by_cases blank : id = ""
        · refine .inr ⟨fun other same => (Option.some.inj same).symm.trans blank, ?_⟩
          rw [waits, run, blank]
          rfl
        · refine .inl ⟨id, rfl, blank, ?_⟩
          rw [waits, run, Option.filter_some]
          simp [blank]
    | generator | shape | text => cases running

def follower? (timeout : Nat) (e : Element α) : Option Followed :=
  (waitingImage? e).bind fun (key, runId) => runId.map fun id => ⟨key, id, timeout⟩

private theorem followedRuns_waitingImages (timeout : Nat) (scene : Scene α) :
    followedRuns timeout (waitingImages scene) = scene.elements.filterMap (follower? timeout) :=
  List.filterMap_filterMap

private theorem key_of_waitingImage? {e : Element α} {key : Key} {runId : Option String}
    (counted : waitingImage? e = some (key, runId)) : key = e.key := by
  rcases waitingImage?_cases e with ⟨-, none⟩ | ⟨image, -, -, ⟨id, -, -, some⟩ | ⟨-, some⟩⟩
  · rw [none] at counted
    cases counted
  all_goals
    rw [some] at counted
    cases counted
    rfl

private theorem key_of_follower? {timeout : Nat} {e : Element α} {f : Followed}
    (follows : follower? timeout e = some f) : f.key = e.key := by
  obtain ⟨⟨key, runId⟩, counted, follows⟩ := Option.bind_eq_some_iff.mp follows
  obtain ⟨id, -, rfl⟩ := Option.map_eq_some_iff.mp follows
  exact key_of_waitingImage? counted

private theorem filter_followers (timeout : Nat) {e : Element α} (nodup : scene.keys.Nodup)
    (mem : e ∈ scene.elements) :
    (followedRuns timeout (waitingImages scene)).filter (fun f => f.key = e.key) =
      (follower? timeout e).toList := by
  obtain ⟨below, above, eq⟩ := List.append_of_mem mem
  have apart : ∀ other ∈ below ++ above, other.key ≠ e.key := by
    rw [Scene.keys, eq] at nodup
    exact ne_of_nodup_around nodup
  have others (part : List (Element α)) (within : part ⊆ below ++ above) :
      (part.filterMap (follower? timeout)).filter (fun f => f.key = e.key) = [] := by
    refine List.filter_eq_nil_iff.mpr fun f mem same => ?_
    obtain ⟨other, there, follows⟩ := List.mem_filterMap.mp mem
    exact apart other (within there)
      ((key_of_follower? follows).symm.trans (of_decide_eq_true same))
  have own : (follower? timeout e).toList.filter (fun f => f.key = e.key) =
      (follower? timeout e).toList := by
    refine List.filter_eq_self.mpr fun f mem => decide_eq_true ?_
    exact key_of_follower? (Option.mem_toList.mp mem)
  rw [followedRuns_waitingImages, eq, List.filterMap_append, List.filterMap_eq_flatMap_toList _
    (e :: above), List.flatMap_cons, ← List.filterMap_eq_flatMap_toList, List.filter_append,
    List.filter_append, others below (List.subset_append_left _ _),
    others above (List.subset_append_right _ _), own, List.nil_append, List.append_nil]

private theorem length_waitingImages (timeout : Nat) (scene : Scene α) :
    (followedRuns timeout (waitingImages scene)).length +
        (interruptedKeys (waitingImages scene)).length =
      (scene.elements.filter Element.isRunning).length := by
  have parted (waiting : List (Key × Option String)) :
      (followedRuns timeout waiting).length + (interruptedKeys waiting).length =
        waiting.length := by
    induction waiting with
    | nil => rfl
    | cons first rest ih =>
      obtain ⟨key, _ | id⟩ := first
      · exact congrArg (· + 1) ih
      · have longer := congrArg (· + 1) ih
        rwa [Nat.add_right_comm] at longer
  rw [parted, waitingImages, List.length_filterMap_eq_countP, List.countP_eq_length_filter]
  refine congrArg List.length (List.filter_congr fun e _ => ?_)
  rcases waitingImage?_cases e with
    ⟨idle, none⟩ | ⟨image, shown, waits, ⟨_, -, -, some⟩ | ⟨-, some⟩⟩
  · rw [none, idle]
    rfl
  all_goals
    rw [some, Element.isRunning, shown, Content.isRunning, waits]
    rfl

private theorem mem_interruptedKeys {key : Key} :
    key ∈ interruptedKeys (waitingImages scene) ↔
      ∃ e ∈ scene.elements, waitingImage? e = some (key, none) := by
  simp [interruptedKeys, waitingImages]

end Plain

variable {α : Type} [Scalar α]

private theorem scene_freshStore (scene : Scene α) (view : Option (ViewState α)) :
    (freshStore scene view).scene = scene := by
  have replaced (store : Store α) : (store.replaceScene scene).scene = scene :=
    congrArg Canvas.scene (Store.canvas_notify _ _)
  unfold freshStore
  cases view with
  | none => exact replaced _
  | some view =>
    have moved (store : Store α) (operation : Canvas α → Effects × Canvas α) :
        (store.apply operation).2.scene = (operation store.canvas).2.scene :=
      congrArg Canvas.scene (Store.canvas_notify _ _)
    exact (moved _ _).trans (replaced (Store.ofCanvas (Canvas.ofSize defaultViewW defaultViewH)))

private theorem nodup_restored (loaded : LoadedScene α) (assets : List Asset) :
    (restored loaded assets).scene.keys.Nodup := by
  unfold restored
  split
  · next stored _ =>
    rcases Document.restoreValue_cases stored (Catalog.ofList assets) with
      ⟨doc, -, -, eq⟩ | ⟨-, eq⟩
    · rw [eq]
      exact Scene.keys_ofElements_nodup _ _
    · rw [eq]
      exact Scene.keys_ofElements_nodup _ _
  · exact List.nodup_nil

private theorem elements_interrupt {store : Store α} (nodup : store.scene.keys.Nodup)
    (keys : List Key) :
    (interrupt store keys).scene.elements = store.scene.elements.map fun e =>
      if e.key ∈ keys ∧ e.isRunning = true then e.failed interruptedMessage else e := by
  induction keys generalizing store with
  | nil => simp [interrupt]
  | cons key keys ih =>
    have failed := Store.elements_fail nodup key interruptedMessage
    have kept : (store.fail key interruptedMessage).2.scene.keys = store.scene.keys := by
      rw [Scene.keys, failed, List.map_map]
      refine List.map_congr_left fun e _ => ?_
      rw [Function.comp_apply]
      split <;> rfl
    have step : interrupt store (key :: keys) =
        interrupt (store.fail key interruptedMessage).2 keys := rfl
    rw [step, ih (kept ▸ nodup), failed, List.map_map]
    refine List.map_congr_left fun e _ => ?_
    rw [Function.comp_apply]
    by_cases first : e.key = key ∧ e.isRunning = true
    · have idle : (e.failed interruptedMessage).isRunning = false :=
        RunEvent.isRunning_mapImage_deliver _ e
      rw [if_pos first, if_neg (by simp [idle]), if_pos ⟨by simp [first.1], first.2⟩]
    · rw [if_neg first]
      refine if_congr ?_ rfl rfl
      grind

/-- What opening makes of an element of the saved scene, and who follows a run for it. -/
inductive Reopens (timeout : Nat) (followed : List Followed) (e : Element α) : Element α → Prop
  | idle (rests : e.isRunning = false) (alone : followed.filter (fun f => f.key = e.key) = []) :
      Reopens timeout followed e e
  /-- It waits for a known run; it stays as it was saved, and one follower waits with it. -/
  | resumed {image : Image α} {id : String} (shown : e.content = .image image)
      (waits : image.status = .running) (run : image.runId = some id) (known : id ≠ "")
      (once : followed.filter (fun f => f.key = e.key) = [⟨e.key, id, timeout⟩]) :
      Reopens timeout followed e e
  | interrupted {image : Image α} (shown : e.content = .image image)
      (waits : image.status = .running) (unknown : ∀ id, image.runId = some id → id = "")
      (alone : followed.filter (fun f => f.key = e.key) = []) :
      Reopens timeout followed e
        { e with
          content := .image
            { image with
              status := .error
              errorMessage := some interruptedMessage
              runId := none } }

/-- A workspace as it is opened accounts for the elements of a saved scene, above all for the images
that wait. -/
structure Accounts (settings : Settings α) (scene : Scene α) (opened : Opened α) : Prop where
  elements : opened.report.elements = scene.size
  resumed : opened.report.resumed = opened.followed.length
  waiting : opened.report.resumed + opened.report.interrupted =
    (scene.elements.filter Element.isRunning).length
  each : List.Forall₂ (Reopens settings.streamTimeout opened.followed) scene.elements
    opened.store.scene.elements

omit [Scalar α] in
private theorem Reopens.exists_follower {timeout : Nat} {followed : List Followed}
    {e e' : Element α} (reopens : Reopens timeout followed e e') (waits : e'.isRunning = true) :
    ∃ f ∈ followed, f.key = e'.key := by
  cases reopens with
  | idle rests =>
    rw [rests] at waits
    cases waits
  | resumed _ _ _ _ once =>
    have mem := once.symm ▸ List.mem_singleton_self _
    exact ⟨_, (List.mem_filter.mp mem).1, rfl⟩
  | interrupted => cases waits

omit [Scalar α] in
theorem Accounts.exists_follower {settings : Settings α} {scene : Scene α} {opened : Opened α}
    {key : Key} (accounts : Accounts settings scene opened)
    (waits : opened.store.scene.isRunning key = true) : ∃ f ∈ opened.followed, f.key = key := by
  have followed : ∀ e ∈ opened.store.scene.elements, e.isRunning = true →
      ∃ f ∈ opened.followed, f.key = e.key :=
    ((List.forall₂_and_left _ _).mp (accounts.each.flip.imp fun _ _ reopens =>
      ⟨reopens.exists_follower, reopens⟩)).1
  unfold Scene.isRunning at waits
  cases found : opened.store.scene.get? key with
  | none => simp [found] at waits
  | some e =>
    rw [found] at waits
    have same : e.key = key := by simpa using List.find?_some found
    obtain ⟨f, mem, own⟩ := followed e (List.mem_of_find?_eq_some found) waits
    exact ⟨f, mem, own.trans same⟩

section Load

private theorem elements_load (settings : Settings α) (loaded : LoadedScene α)
    (assets : List Asset) :
    (load settings true loaded assets).store.scene.elements =
      (restored loaded assets).scene.elements.map fun e =>
        if e.key ∈ interruptedKeys (waitingImages (restored loaded assets).scene) ∧
            e.isRunning = true then e.failed interruptedMessage else e := by
  have fresh := scene_freshStore (restored loaded assets).scene loaded.view
  have collected : (freshStore (restored loaded assets).scene loaded.view).collect.2.scene =
      (restored loaded assets).scene := fresh
  have nodup := nodup_restored loaded assets
  rw [← collected] at nodup ⊢
  exact elements_interrupt nodup _

theorem followed_load (settings : Settings α) (loaded : LoadedScene α) (assets : List Asset) :
    (load settings true loaded assets).followed =
      followedRuns settings.streamTimeout (waitingImages (restored loaded assets).scene) := by
  have fresh := scene_freshStore (restored loaded assets).scene loaded.view
  exact congrArg (fun scene => followedRuns settings.streamTimeout (waitingImages scene)) fresh

private theorem interrupted_load (settings : Settings α) (loaded : LoadedScene α)
    (assets : List Asset) :
    (load settings true loaded assets).report.interrupted =
      (interruptedKeys (waitingImages (restored loaded assets).scene)).length := by
  have fresh := scene_freshStore (restored loaded assets).scene loaded.view
  exact congrArg (fun scene => (interruptedKeys (waitingImages scene)).length) fresh

private theorem reopens_load (settings : Settings α) (loaded : LoadedScene α)
    (assets : List Asset) :
    List.Forall₂
      (Reopens settings.streamTimeout (load settings true loaded assets).followed)
      (restored loaded assets).scene.elements
      (load settings true loaded assets).store.scene.elements := by
  have nodup := nodup_restored loaded assets
  rw [elements_load, followed_load, List.forall₂_map_right_iff, List.forall₂_same]
  intro e mem
  have own := filter_followers settings.streamTimeout nodup mem
  unfold follower? at own
  rcases waitingImage?_cases e with
    ⟨idle, counted⟩ | ⟨image, shown, waits, ⟨id, run, known, counted⟩ | ⟨unknown, counted⟩⟩
  · rw [if_neg (by simp [idle])]
    rw [counted] at own
    exact .idle idle own
  · have kept : e.key ∉ interruptedKeys (waitingImages (restored loaded assets).scene) := by
      intro cut
      obtain ⟨other, there, counted'⟩ := mem_interruptedKeys.mp cut
      have same : other.key = e.key := (key_of_waitingImage? counted').symm
      obtain rfl := List.inj_on_of_nodup_map nodup there mem same
      rw [counted] at counted'
      cases counted'
    rw [if_neg fun both => kept both.1]
    rw [counted] at own
    exact .resumed shown waits run known own
  · have running : e.isRunning = true := by
      rw [Element.isRunning, shown, Content.isRunning, waits]
      rfl
    rw [if_pos ⟨mem_interruptedKeys.mpr ⟨e, mem, counted⟩, running⟩]
    rw [counted] at own
    have failed : e.failed interruptedMessage =
        { e with
          content := .image
            { image with
              status := .error
              errorMessage := some interruptedMessage
              runId := none } } := by
      rw [Element.failed, Element.mapImage, shown]
      rfl
    rw [failed]
    exact .interrupted shown waits unknown own

theorem accounts_load (settings : Settings α) (loaded : LoadedScene α) (assets : List Asset) :
    Accounts settings (restored loaded assets).scene (load settings true loaded assets) := by
  refine ⟨rfl, rfl, ?_, reopens_load settings loaded assets⟩
  rw [interrupted_load, show (load settings true loaded assets).report.resumed =
    (load settings true loaded assets).followed.length from rfl, followed_load]
  exact length_waitingImages _ _

end Load

end Workspace

end PromptCanvas
