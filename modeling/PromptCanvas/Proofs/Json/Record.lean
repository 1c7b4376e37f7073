import Mathlib.Data.List.Nodup
import PromptCanvas.Json.Record
import PromptCanvas.Proofs.Json.Extension

/-!
Reading back the records of an object.

A reader looks fields up by their names, so it finds what an object carries, whatever else the
object has, and whatever else the objects in it have.  Where a name stands more than once, a value
that is passed on keeps the last member of the name.
-/

set_option autoImplicit false
set_option relaxedAutoImplicit false

namespace PromptCanvas.Json

variable {α β γ : Type}

section Names

variable (members : List (String × Json α))

private theorem isSome_lookup (name : String) :
    (members.lookup name).isSome = members.any (·.1 == name) := by
  induction members with
  | nil => rfl
  | cons first rest ih =>
    rw [List.any_cons, ← ih, List.lookup_cons, Bool.beq_comm]
    cases first.1 == name <;> rfl

theorem nodup_lastOfNames : ((lastOfNames members).map Prod.fst).Nodup := by
  induction members with
  | nil => exact List.nodup_nil
  | cons first rest ih =>
    rw [lastOfNames, List.foldr_cons, ← lastOfNames]
    split
    next => exact ih
    next fresh =>
      rw [List.map_cons, List.nodup_cons]
      refine ⟨fun again => fresh ?_, ih⟩
      obtain ⟨member, mem, same⟩ := List.mem_map.mp again
      exact List.any_eq_true.mpr ⟨member, mem, beq_iff_eq.mpr same⟩

theorem lookup_lastOfNames (name : String) :
    (lastOfNames members).lookup name = members.reverse.lookup name := by
  induction members with
  | nil => rfl
  | cons first rest ih =>
    rw [List.reverse_cons, List.lookup_append, ← ih, lastOfNames, List.foldr_cons, ← lastOfNames]
    have later := isSome_lookup (lastOfNames rest) first.1
    split
    next again =>
      rw [again, Option.isSome_iff_exists] at later
      obtain ⟨json, found⟩ := later
      by_cases same : name = first.1
      · rw [same, found]
        rfl
      · rw [List.lookup_cons, beq_false_of_ne same]
        exact (Option.or_none).symm
    next fresh =>
      rw [eq_false_of_ne_true fresh, Option.isSome_eq_false_iff,
        Option.isNone_iff_eq_none] at later
      rw [List.lookup_cons, List.lookup_cons]
      by_cases same : name = first.1
      · rw [same, later, beq_self_eq_true]
        rfl
      · rw [beq_false_of_ne same]
        exact (Option.or_none).symm

private theorem tidiedMembers_eq :
    tidiedMembers members = members.map fun member => (member.1, tidied member.2) := by
  induction members with
  | nil => rfl
  | cons first rest ih => rw [tidiedMembers, ih, List.map_cons]

/-- Of the members of one name the last one counts. -/
theorem get?_tidied (name : String) :
    (tidied (.obj members)).get? name = (members.reverse.lookup name).map tidied := by
  rw [tidied, get?, lookup_lastOfNames, tidiedMembers_eq, ← List.map_reverse]
  induction members.reverse with
  | nil => rfl
  | cons first rest ih =>
    rw [List.map_cons, List.lookup_cons, List.lookup_cons, ih]
    cases name == first.1 <;> rfl
end Names

def Reads (reader : FieldReader α β) (members : List (String × Json α)) (value : β) : Prop :=
  reader (.named members) = some (value, .named members)

def Offers (members : List (String × Json α)) (name : String) (json : Json α) : Prop :=
  ∃ json', members.lookup name = some json' ∧ json.Extends json'

def Carries (members fields : List (String × Json α)) : Prop :=
  ∀ field ∈ fields, Offers members field.1 field.2

section Carries

variable {members fields more : List (String × Json α)}

private theorem lookup_of_mem {name : String} {json : Json α}
    (nodup : (members.map Prod.fst).Nodup) (mem : (name, json) ∈ members) :
    members.lookup name = some json := by
  induction members with
  | nil => simp at mem
  | cons first rest ih =>
    obtain ⟨other, value⟩ := first
    rw [List.map_cons, List.nodup_cons] at nodup
    rcases List.mem_cons.mp mem with same | later
    · obtain ⟨rfl, rfl⟩ := Prod.mk.inj same
      simp
    · have apart : name ≠ other := by
        rintro rfl
        exact nodup.1 (List.mem_map.mpr ⟨_, later, rfl⟩)
      rw [List.lookup_cons, beq_false_of_ne apart]
      exact ih nodup.2 later

private theorem carries_of_extends {json : Json α} (nodup : (fields.map Prod.fst).Nodup)
    (ext : Extends (.obj fields) json) :
    ∃ members, json = .obj members ∧ Carries members fields := by
  obtain ⟨members, rfl, kept⟩ := ext.of_obj
  exact ⟨members, rfl, fun field mem => kept field.1 field.2 (lookup_of_mem nodup mem)⟩

theorem Carries.left (h : Carries members (fields ++ more)) : Carries members fields :=
  fun field mem => h field (List.mem_append_left _ mem)

theorem Carries.right (h : Carries members (fields ++ more)) : Carries members more :=
  fun field mem => h field (List.mem_append_right _ mem)

theorem carries_cons_iff {field : String × Json α} :
    Carries members (field :: fields) ↔
      Offers members field.1 field.2 ∧ Carries members fields :=
  List.forall_mem_cons

end Carries

namespace Reads

variable {members : List (String × Json α)} {name : String} {json : Json α} {value : β}

theorem pure (value : β) : Reads (Pure.pure value) members value := rfl

theorem bind {reader : FieldReader α β} {next : β → FieldReader α γ} {result : γ}
    (first : Reads reader members value) (rest : Reads (next value) members result) :
    Reads (reader >>= next) members result := by
  change (reader (.named members)).bind (fun read => next read.1 read.2) = _
  rw [first]
  exact rest

theorem map {reader : FieldReader α β} {f : β → γ} (first : Reads reader members value) :
    Reads (f <$> reader) members (f value) := by
  change (reader (.named members)).bind (fun read => some (f read.1, read.2)) = _
  rw [first]
  rfl

private theorem nextField (found : members.lookup name = some json) :
    Reads (nextField name) members (some json) := by
  rw [Reads, Json.nextField, found]

private theorem lift {read : Option β} (eq : read = some value) :
    Reads (StateT.lift read) members value := by
  subst eq
  rfl

theorem required {read : Json α → Option β} (offers : Offers members name json)
    (yields : Yields read json value) : Reads (required name read) members value :=
  have ⟨json', found, ext⟩ := offers
  .bind (.nextField found) (.lift (yields json' ext))

theorem defaulted {read : Json α → Option β} {absent : β} (offers : Offers members name json)
    (yields : Yields read json value) : Reads (defaulted name absent read) members value :=
  have ⟨json', found, ext⟩ := offers
  .bind (.nextField found) (.lift (yields json' ext))

theorem optional {read : Json α → Option β} {value : Option β} (offers : Offers members name json)
    (yields : Yields (nullable read) json value) : Reads (optional name read) members value :=
  .defaulted offers yields

theorem placed {read : Json α → Option β} {value : Option β} (offers : Offers members name json)
    (yields : Yields (nullable read) json value) : Reads (placed name read) members value :=
  have named : Reads isNamed members true := rfl
  .bind named (.optional offers yields)

theorem flattened {kinds : List (String × FieldReader α β)} {kind : String}
    {reader : FieldReader α β} (offers : Offers members name (.str kind))
    (known : kinds.lookup kind = some reader) (read : Reads reader members value) :
    Reads (flattened name kinds) members value :=
  .bind (.required offers (.plain known rfl)) read

end Reads

section Objects

variable {fields : List (String × Json α)} {value : β}

theorem yields_object? {reader : FieldReader α β} (nodup : (fields.map Prod.fst).Nodup)
    (reads : ∀ members, Carries members fields → Reads reader members value) :
    Yields (object? reader) (.obj fields) value := by
  intro json ext
  obtain ⟨members, rfl, carries⟩ := carries_of_extends nodup ext
  rw [object?, reads members carries]
  rfl

theorem yields_record? {reader : FieldReader α β} (nodup : (fields.map Prod.fst).Nodup)
    (reads : ∀ members, Carries members fields → Reads reader members value) :
    Yields (record? reader) (.obj fields) value := by
  intro json ext
  obtain ⟨members, rfl, carries⟩ := carries_of_extends nodup ext
  rw [record?, reads members carries]
  rfl

theorem yields_tagged? {tag kind : String} {kinds : List (String × FieldReader α β)}
    {reader : FieldReader α β} (nodup : (((tag, .str kind) :: fields).map Prod.fst).Nodup)
    (known : kinds.lookup kind = some reader)
    (reads : ∀ members, Carries members fields → Reads reader members value) :
    Yields (tagged? tag kinds) (.obj ((tag, .str kind) :: fields)) value := by
  refine yields_record? nodup fun members carries => ?_
  obtain ⟨tagged, rest⟩ := carries_cons_iff.mp carries
  refine .bind (.required tagged (.plain rfl rfl)) ?_
  simp only [known]
  exact reads members rest

end Objects

section Inversion

variable {fields fields' : Fields α}

theorem exists_of_bind {reader : FieldReader α β} {next : β → FieldReader α γ} {result : γ}
    (read : (reader >>= next) fields = some (result, fields')) :
    ∃ value between, reader fields = some (value, between) ∧
      next value between = some (result, fields') := by
  obtain ⟨⟨value, between⟩, first, rest⟩ := Option.bind_eq_some_iff.mp read
  exact ⟨value, between, first, rest⟩

theorem eq_of_required {members : List (String × Json α)} {name : String} {json : Json α}
    {read : Json α → Option β} {value : β} (found : members.lookup name = some json)
    (eq : required name read (.named members) = some (value, fields')) :
    read json = some value := by
  obtain ⟨field, between, looked, rest⟩ := exists_of_bind eq
  rw [nextField, found] at looked
  obtain ⟨rfl, rfl⟩ := Prod.mk.inj (Option.some.inj looked)
  obtain ⟨value', took, same⟩ := Option.bind_eq_some_iff.mp rest
  obtain ⟨rfl, -⟩ := Prod.mk.inj (Option.some.inj same)
  exact took

theorem eq_of_optional_text {name : String} {value : Option String}
    (eq : optional name text? fields = some (value, fields')) :
    ∃ found, nextField name fields = some (found, fields') ∧ value = found.bind text? := by
  obtain ⟨found, between, looked, rest⟩ := exists_of_bind eq
  cases found with
  | none =>
    obtain ⟨rfl, rfl⟩ := Prod.mk.inj (Option.some.inj rest)
    exact ⟨none, looked, rfl⟩
  | some json =>
    obtain ⟨value', took, same⟩ := Option.bind_eq_some_iff.mp rest
    obtain ⟨rfl, rfl⟩ := Prod.mk.inj (Option.some.inj same)
    refine ⟨some json, looked, ?_⟩
    cases json <;> cases took <;> rfl

theorem exists_of_record? {reader : FieldReader α β} {json : Json α} {value : β}
    (read : record? reader json = some value) :
    ∃ fields fields', reader fields = some (value, fields') ∧
      ((∃ members, json = .obj members ∧ fields = .named members) ∨
        ∃ items, json = .arr items ∧ fields = .listed items) := by
  cases json with
  | obj members =>
    obtain ⟨⟨_, after⟩, took, rfl⟩ := Option.map_eq_some_iff.mp read
    exact ⟨_, after, took, .inl ⟨members, rfl, rfl⟩⟩
  | arr items =>
    simp only [record?] at read
    split at read
    · next took =>
      cases read
      exact ⟨_, _, took, .inr ⟨items, rfl, rfl⟩⟩
    · cases read
  | _ => cases read

end Inversion

theorem nat?_eq_some_iff {limit n : Nat} {json : Json α} :
    nat? limit json = some n ↔ json = .ofNat n ∧ n ≤ limit := by
  constructor
  · intro read
    unfold nat? at read
    split at read
    · next m =>
      split at read
      · next within =>
        obtain rfl := Option.some.inj read
        exact ⟨rfl, within⟩
      · cases read
    · cases read
  · rintro ⟨rfl, within⟩
    simp [nat?, ofNat, within]

theorem nat?_ofNat {limit n : Nat} (within : n ≤ limit) :
    nat? limit (.ofNat n : Json α) = some n :=
  nat?_eq_some_iff.mpr ⟨rfl, within⟩

theorem yields_ofNat {limit n : Nat} (within : n ≤ limit) :
    Yields (nat? limit) (.ofNat n : Json α) n :=
  .plain (nat?_ofNat within) rfl

theorem yields_ofNumber [Scalar α] {x : α} (finite : Scalar.isFinite x = true) :
    Yields number? (ofNumber x) x := by
  rw [ofNumber, if_pos finite]
  exact .plain rfl rfl

theorem yields_ofOption {read : Json α → Option β} {write : β → Json α} {value : Option β}
    (back : ∀ b ∈ value, Yields read (write b) b) (solid : ∀ b ∈ value, write b ≠ .null) :
    Yields (nullable read) (ofOption write value) value := by
  cases value with
  | none => exact .plain rfl rfl
  | some b =>
    intro json ext
    have there : json ≠ .null := ext.ne_null (solid b rfl)
    rw [nullable, back b rfl json ext]
    · rfl
    · exact there

theorem yields_list? {read : Json α → Option β} {write : β → Json α} {items : List β}
    (back : ∀ item ∈ items, Yields read (write item) item) :
    Yields (list? read) (.arr (items.map write)) items := by
  intro json ext
  obtain ⟨jsons, rfl, each⟩ := ext.of_arr
  clear ext
  change jsons.mapM read = some items
  induction items generalizing jsons with
  | nil =>
    cases each
    rfl
  | cons first rest ih =>
    obtain ⟨head, tail⟩ := List.forall_mem_cons.mp back
    cases each with
    | cons now later =>
      rw [List.mapM_cons, head _ now, ih tail _ later]
      rfl

end PromptCanvas.Json
