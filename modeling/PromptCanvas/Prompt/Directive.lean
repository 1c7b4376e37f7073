import PromptCanvas.Size

set_option autoImplicit false
set_option relaxedAutoImplicit false

namespace PromptCanvas.Directive

def opening : List Char := "(@size".toList

def opens (cs : List Char) : Bool := Text.startsWithIgnoringCase opening (cs.take opening.length)

def value (inner : List Char) : List Char :=
  match Text.trimStart inner with
  | ':' :: size => size
  | _ => inner

/-- The text of a directive between its opening and its closing parenthesis. -/
def inner (cs : List Char) : List Char := (cs.drop opening.length).takeWhile (· ≠ ')')

def closing (cs : List Char) : List Char := (cs.drop opening.length).dropWhile (· ≠ ')')

private theorem length_after_closing {cs after : List Char} {c : Char}
    (h : closing cs = c :: after) : after.length < cs.length := by
  have le : (closing cs).length ≤ (cs.drop opening.length).length :=
    List.Sublist.length_le (List.dropWhile_sublist _)
  rw [h, List.length_cons, List.length_drop] at le
  omega

/-- Replaces every directive by a space and answers with the size of the first one. -/
def extract (cs : List Char) : Except CanvasError (List Char × Option Size) :=
  if opens cs then
    match _closed : closing cs with
    | [] => .error (.invalidSize (String.ofList cs))
    | _ :: after =>
      match Size.parse (value (inner cs)) with
      | .error e => .error e
      | .ok size =>
        match extract after with
        | .error e => .error e
        | .ok (text, _) => .ok (' ' :: text, some size)
  else
    match cs with
    | [] => .ok ([], none)
    | c :: rest =>
      match extract rest with
      | .error e => .error e
      | .ok (text, size) => .ok (c :: text, size)
termination_by cs.length
decreasing_by
  · exact length_after_closing _closed
  · simp

end PromptCanvas.Directive
