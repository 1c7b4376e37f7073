import PromptCanvas.Job.Submission

/-!
What bars a prompt.

It is seen from the text of the prompt and from the canvas, and whatever it is, it is an error of
input.
-/

set_option autoImplicit false
set_option relaxedAutoImplicit false

namespace PromptCanvas

section Parsing

variable {cs : List Char} {e : CanvasError}

private theorem Size.isInput_of_parse (failed : parse cs = .error e) : e.isInput = true := by
  simp only [parse] at failed
  split at failed
  · cases failed
  · obtain rfl := Except.error.inj failed
    rfl

private theorem Directive.isInput_of_extract (failed : extract cs = .error e) :
    e.isInput = true := by
  fun_induction extract cs with
  | case1 cs opened closed =>
    obtain rfl := Except.error.inj failed
    rfl
  | case2 cs opened c after closed e' unread =>
    obtain rfl := Except.error.inj failed
    exact Size.isInput_of_parse unread
  | case3 cs opened c after closed size read e' rest ih =>
    obtain rfl := Except.error.inj failed
    exact ih rest
  | case4 => cases failed
  | case5 => cases failed
  | case6 c rest e' later opened ih =>
    obtain rfl := Except.error.inj failed
    exact ih later
  | case7 => cases failed

private theorem Prompt.isInput_of_parse {text : String} (failed : parse text = .error e) :
    e.isInput = true := by
  unfold parse at failed
  split at failed
  · next unread =>
    obtain rfl := Except.error.inj failed
    exact Directive.isInput_of_extract unread
  · split at failed
    · cases failed
    · obtain rfl := Except.error.inj failed
      rfl

end Parsing

namespace Reference

variable {α : Type} {scene : Scene α} {ids : List Nat} {keys : List Key}

theorem resolve_cons (scene : Scene α) (id : Nat) (ids : List Nat) :
    resolve scene (id :: ids) =
      match scene.byRefId? id with
      | none => .error (.unresolvedReference id)
      | some e =>
        match resolve scene ids with
        | .error failure => .error failure
        | .ok keys => .ok (e.key :: keys) := by
  generalize rest : resolve scene ids = resolved
  unfold resolve at rest ⊢
  rw [List.mapM_cons, rest]
  cases scene.byRefId? id with
  | none => rfl
  | some e => cases resolved <;> rfl

private theorem named_of_resolve (resolved : resolve scene ids = .ok keys) :
    (∀ id ∈ ids, ∃ e, scene.byRefId? id = some e ∧ e.key ∈ keys) ∧
      ∀ key ∈ keys, ∃ id ∈ ids, ∃ e, scene.byRefId? id = some e ∧ e.key = key := by
  induction ids generalizing keys with
  | nil =>
    obtain rfl := Except.ok.inj resolved
    exact ⟨fun id mem => absurd mem List.not_mem_nil, fun key mem => absurd mem List.not_mem_nil⟩
  | cons id ids ih =>
    rw [resolve_cons] at resolved
    split at resolved
    · cases resolved
    · next e named =>
      split at resolved
      · cases resolved
      · next keys rest =>
        obtain rfl := Except.ok.inj resolved
        obtain ⟨all, back⟩ := ih rest
        constructor
        · intro other mem
          rcases List.mem_cons.mp mem with rfl | later
          · exact ⟨e, named, List.mem_cons_self⟩
          · obtain ⟨e', named', mem'⟩ := all other later
            exact ⟨e', named', List.mem_cons_of_mem _ mem'⟩
        · intro key mem
          rcases List.mem_cons.mp mem with rfl | later
          · exact ⟨id, List.mem_cons_self, e, named, rfl⟩
          · obtain ⟨other, mem', named'⟩ := back key later
            exact ⟨other, List.mem_cons_of_mem id mem', named'⟩

private theorem unresolved_of_resolve {failure : CanvasError}
    (failed : resolve scene ids = .error failure) :
    failure.isInput = true ∧ ∃ id ∈ ids, scene.byRefId? id = none := by
  induction ids with
  | nil => cases failed
  | cons id ids ih =>
    rw [resolve_cons] at failed
    split at failed
    · next unnamed =>
      obtain rfl := Except.error.inj failed
      exact ⟨rfl, id, List.mem_cons_self, unnamed⟩
    · split at failed
      · next rest =>
        obtain rfl := Except.error.inj failed
        obtain ⟨input, other, mem, unnamed⟩ := ih rest
        exact ⟨input, other, List.mem_cons_of_mem id mem, unnamed⟩
      · cases failed

end Reference

namespace Submission

variable {α : Type}

/-- What bars a prompt: there is nothing to generate with; the text has no words, or a size that
cannot be read; a mentioned id names no element, or one that waits for a result; or the only
selected element waits for one. -/
inductive Bars (canvas : Canvas α) (hasGeneration : Bool) (text : String) : Prop
  | noBackend : hasGeneration = false → Bars canvas hasGeneration text
  | unreadable {e : CanvasError} : Prompt.parse text = .error e → Bars canvas hasGeneration text
  | unresolved {prompt : Prompt} {id : Nat} : Prompt.parse text = .ok prompt →
      id ∈ prompt.references → canvas.scene.byRefId? id = none → Bars canvas hasGeneration text
  | waiting {prompt : Prompt} {id : Nat} {e : Element α} : Prompt.parse text = .ok prompt →
      id ∈ prompt.references → canvas.scene.byRefId? id = some e →
      canvas.scene.isRunning e.key = true → Bars canvas hasGeneration text
  | selected {key : Key} : canvas.selection.single? = some key →
      canvas.scene.isRunning key = true → Bars canvas hasGeneration text

variable {canvas : Canvas α} {hasGeneration : Bool} {text : String}

private theorem bars_of_resolveTarget {prompt : Prompt} {failure : CanvasError}
    (read : Prompt.parse text = .ok prompt)
    (failed : resolveTarget canvas prompt.references = .error failure) :
    failure.isInput = true ∧ Bars canvas hasGeneration text := by
  unfold resolveTarget at failed
  split at failed
  · next unresolved =>
    obtain rfl := Except.error.inj failed
    obtain ⟨input, id, mem, unnamed⟩ := Reference.unresolved_of_resolve unresolved
    exact ⟨input, .unresolved read mem unnamed⟩
  · next keys resolved =>
    split at failed
    · next key busy =>
      obtain rfl := Except.error.inj failed
      obtain ⟨-, back⟩ := Reference.named_of_resolve resolved
      obtain ⟨id, mem, e, named, rfl⟩ := back key (List.mem_of_find?_eq_some busy)
      exact ⟨rfl, .waiting read mem named (List.find?_some busy)⟩
    · simp only at failed
      split at failed
      · cases failed
      · next e chosen =>
        split at failed
        · next running =>
          obtain rfl := Except.error.inj failed
          obtain ⟨key, single, found⟩ := Option.bind_eq_some_iff.mp chosen
          refine ⟨rfl, .selected single ?_⟩
          rw [Scene.isRunning, found]
          exact running
        · cases failed

private theorem idle_of_resolveTarget {references : List Nat} {target : Target}
    (resolved : resolveTarget canvas references = .ok target) :
    (∀ id ∈ references, ∃ e, canvas.scene.byRefId? id = some e ∧
      canvas.scene.isRunning e.key = false) ∧
    ∀ key, canvas.selection.single? = some key → canvas.scene.isRunning key = false := by
  unfold resolveTarget at resolved
  split at resolved
  · cases resolved
  · next keys named =>
    split at resolved
    · cases resolved
    · next idle =>
      constructor
      · intro id mem
        obtain ⟨e, found, there⟩ := (Reference.named_of_resolve named).1 id mem
        exact ⟨e, found, Bool.eq_false_iff.mpr (List.find?_eq_none.mp idle e.key there)⟩
      · intro key single
        have chosen : selected? canvas = canvas.scene.get? key := by rw [selected?, single]; rfl
        simp only [chosen] at resolved
        rw [Scene.isRunning]
        cases found : canvas.scene.get? key with
        | none => rfl
        | some e =>
          simp only [found] at resolved
          split at resolved
          · cases resolved
          · next rests => exact Bool.eq_false_iff.mpr rests

theorem bars_of_check {reason : Rejection} {e : ServiceError}
    (failed : check canvas hasGeneration text = .error (reason, e)) :
    e.isInput = true ∧ Bars canvas hasGeneration text := by
  unfold check at failed
  split at failed
  · split at failed
    · next unread =>
      cases failed
      exact ⟨Prompt.isInput_of_parse unread, .unreadable unread⟩
    · next prompt read =>
      split at failed
      · next refused =>
        cases failed
        exact bars_of_resolveTarget read refused
      · cases failed
  · next missing =>
    cases failed
    exact ⟨rfl, .noBackend (Bool.eq_false_iff.mpr missing)⟩

theorem not_bars_of_check {admission : Admission}
    (passed : check canvas hasGeneration text = .ok admission) :
    ¬ Bars canvas hasGeneration text := by
  unfold check at passed
  split at passed
  · next offered =>
    split at passed
    · cases passed
    · next prompt read =>
      split at passed
      · cases passed
      · next target resolved =>
        obtain ⟨references, selected⟩ := idle_of_resolveTarget resolved
        intro bars
        cases bars with
        | noBackend missing => exact Bool.false_ne_true (missing.symm.trans offered)
        | unreadable unread => cases read.symm.trans unread
        | unresolved read' mem unnamed =>
          obtain rfl := Except.ok.inj (read.symm.trans read')
          obtain ⟨e, named, -⟩ := references _ mem
          cases unnamed.symm.trans named
        | waiting read' mem named running =>
          obtain rfl := Except.ok.inj (read.symm.trans read')
          obtain ⟨e, named', idle⟩ := references _ mem
          obtain rfl := Option.some.inj (named.symm.trans named')
          exact Bool.false_ne_true (idle.symm.trans running)
        | selected single running =>
          exact Bool.false_ne_true ((selected _ single).symm.trans running)
  · cases passed

end Submission

end PromptCanvas
