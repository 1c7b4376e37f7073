import Mathlib.Data.Nat.Init
import PromptCanvas.Process

set_option autoImplicit false
set_option relaxedAutoImplicit false

namespace PromptCanvas

def hexDigit (c : Char) : Nat := if c.toNat < 97 then c.toNat - 48 else c.toNat - 87

def hexValue (cs : List Char) : Nat := cs.foldl (fun value c => 16 * value + hexDigit c) 0

private theorem hexDigit_digitChar {n : Nat} (small : n < 16) : hexDigit n.digitChar = n := by
  have all : ∀ n : Fin 16, hexDigit (Nat.digitChar n) = n := by decide
  exact all ⟨n, small⟩

private theorem hexValue_concat (cs : List Char) (c : Char) :
    hexValue (cs ++ [c]) = 16 * hexValue cs + hexDigit c := by
  simp [hexValue]

private theorem hexValue_zeros (n : Nat) (cs : List Char) :
    hexValue (List.replicate n '0' ++ cs) = hexValue cs := by
  induction n with
  | zero => rfl
  | succ n ih =>
    rw [List.replicate_succ, List.cons_append, hexValue, List.foldl_cons]
    exact ih

private theorem hexValue_toDigits (n : Nat) : hexValue (Nat.toDigits 16 n) = n := by
  induction n using Nat.strongRecOn with
  | ind n ih =>
    by_cases small : n < 16
    · rw [Nat.toDigits_of_lt_base small]
      simpa [hexValue] using hexDigit_digitChar small
    · have shorter : n / 16 < n := by omega
      have last : n % 16 < 16 := by omega
      rw [Nat.toDigits_of_base_le (by decide) (by omega), hexValue_concat, ih _ shorter,
        hexDigit_digitChar last]
      omega

theorem freshName_injective : Function.Injective freshName := by
  intro m n same
  unfold freshName at same
  have digits := congrArg String.toList same
  simp only [String.toList_append, String.toList_ofList, List.append_cancel_left_eq] at digits
  have values := congrArg hexValue digits
  simpa [hexValue_zeros, hexValue_toDigits] using values

end PromptCanvas
