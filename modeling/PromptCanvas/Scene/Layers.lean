set_option autoImplicit false
set_option relaxedAutoImplicit false

namespace PromptCanvas.Layers

variable {β : Type}

/-- Moves each picked item one step up, past a neighbour that is not picked; the stack is worked
through from its top. -/
def raise (picked : β → Bool) : List β → List β × Bool
  | [] => ([], false)
  | a :: rest =>
    match raise picked rest with
    | ([], changed) => ([a], changed)
    | (b :: more, changed) =>
      if picked a && !picked b then (b :: a :: more, true) else (a :: b :: more, changed)

/-- Moves each picked item of a stack that continues with `below` one step down, past a neighbour
that is not picked; the stack is worked through from its bottom. -/
def lowerOnto (picked : β → Bool) (below : β) : List β → List β × Bool
  | [] => ([below], false)
  | a :: rest =>
    if picked a && !picked below then (a :: (lowerOnto picked below rest).1, true)
    else
      let (stack, changed) := lowerOnto picked a rest
      (below :: stack, changed)

/-- Moves each picked item one step down, past a neighbour that is not picked. -/
def lower (picked : β → Bool) : List β → List β × Bool
  | [] => ([], false)
  | a :: rest => lowerOnto picked a rest

def toTop (picked : β → Bool) (stack : List β) : List β :=
  stack.filter (fun a => !picked a) ++ stack.filter picked

def toBottom (picked : β → Bool) (stack : List β) : List β :=
  stack.filter picked ++ stack.filter (fun a => !picked a)

example : raise (· < 3) [1, 5, 2, 6, 7] = ([5, 1, 6, 2, 7], true) := by decide

example : raise (· < 3) [5, 1, 2] = ([5, 1, 2], false) := by decide

example : lower (· < 3) [5, 6, 1, 2] = ([5, 1, 2, 6], true) := by decide

example : toTop (· < 3) [1, 5, 2, 6] = [5, 6, 1, 2] := by decide

end PromptCanvas.Layers
