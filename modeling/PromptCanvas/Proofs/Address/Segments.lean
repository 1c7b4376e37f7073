import PromptCanvas.Address
import PromptCanvas.Proofs.Text.Percent
import PromptCanvas.Proofs.Text.Words

/-!
What a name brings when it is put behind a path.

Tabulators and line ends of a name are passed over.  What is left stands as a segment of its own,
in percent form, unless it is one or two points: a name of one or two points brings nothing, and a
name that only becomes one when characters are passed over is read as a path would be.
-/

set_option autoImplicit false
set_option relaxedAutoImplicit false

namespace PromptCanvas.AddressPath

open Text

/-- Whether a name stands as a segment of its own behind a path. -/
def Stands (name : String) : Prop :=
  visible name.toList ≠ ['.'] ∧ visible name.toList ≠ ['.', '.']

instance (name : String) : Decidable (Stands name) :=
  inferInstanceAs (Decidable (_ ∧ _))

def segment (special : Bool) (name : String) : List Char :=
  percentEncode (segmentSet special) (visible name.toList)

def slashed (segments : List (List Char)) : List Char := segments.flatMap ('/' :: ·)

/-! ### Segments in percent form -/

section Segment

variable {special : Bool} {name other : String}

theorem percentDecode_segment (special : Bool) (name : String) :
    percentDecode (segment special name) = encodeUtf8 (String.ofList (visible name.toList)) :=
  percentDecode_percentEncode (by simp [segmentSet]) _

theorem segment_inj :
    segment special name = segment special other ↔ visible name.toList = visible other.toList :=
  percentEncode_inj (by simp [segmentSet])

theorem slash_notMem_segment (special : Bool) (name : String) : '/' ∉ segment special name :=
  notMem_percentEncode (by simp [segmentSet]) (by decide) (by decide) _

private theorem visible_eq_of_percentDecode {cs : List Char}
    (bytes : percentDecode (segment special name) = encodeUtf8 (String.ofList cs)) :
    visible name.toList = cs := by
  rw [percentDecode_segment] at bytes
  have texts := congrArg decodeUtf8 bytes
  rwa [decodeUtf8_encodeUtf8, decodeUtf8_encodeUtf8, String.toList_ofList, String.toList_ofList]
    at texts

end Segment

/-! ### Points, plain and in percent form -/

section Points

variable {s rest : List Char} {name : String} {special : Bool}

private theorem eq_of_toLower_e {c : Char} (same : c.toLower = 'e') : c = 'e' ∨ c = 'E' := by
  by_cases small : c.toNat < 0x80
  · have all : ∀ n < 0x80, (Char.ofNat n).toLower = 'e' →
        Char.ofNat n = 'e' ∨ Char.ofNat n = 'E' := by
      decide
    have here := all c.toNat small
    rw [Char.ofNat_toNat] at here
    exact here same
  · have other : ¬ c.isUpper = true := by
      intro upper
      unfold Char.isUpper at upper
      have capital : 65 ≤ c.toNat ∧ c.toNat ≤ 90 := by
        simpa [UInt32.le_iff_toNat_le] using upper
      omega
    rw [toLower_of_not_isUpper other] at same
    exact .inl same

private theorem percentDecode_of_point
    (point : lower s = '.' :: rest ∨ lower s = '%' :: '2' :: 'e' :: rest) :
    ∃ more, lower more = rest ∧ percentDecode s = 0x2E :: percentDecode more := by
  rcases point with plain | form
  · obtain ⟨c, more, rfl, first, later⟩ := List.map_eq_cons_iff.mp plain
    obtain rfl := eq_of_toLower first (by decide)
    refine ⟨more, later, ?_⟩
    rw [percentDecode_cons (by decide), encodeUtf8_eq]
    rfl
  · obtain ⟨c, _, rfl, first, form⟩ := List.map_eq_cons_iff.mp form
    obtain ⟨d, _, rfl, second, form⟩ := List.map_eq_cons_iff.mp form
    obtain ⟨e, more, rfl, third, later⟩ := List.map_eq_cons_iff.mp form
    obtain rfl := eq_of_toLower first (by decide)
    obtain rfl := eq_of_toLower second (by decide)
    refine ⟨more, later, ?_⟩
    rcases eq_of_toLower_e third with rfl | rfl <;> rfl

private theorem lower_eq_nil (none : lower s = []) : s = [] := List.map_eq_nil_iff.mp none

private theorem percentDecode_of_isDot (dot : isDot s = true) : percentDecode s = [0x2E] := by
  have point : lower s = ['.'] ∨ lower s = ['%', '2', 'e'] := by
    simpa [isDot] using dot
  obtain ⟨more, none, bytes⟩ := percentDecode_of_point point
  rw [bytes, lower_eq_nil none, percentDecode]

private theorem percentDecode_of_isDoubleDot (dots : isDoubleDot s = true) :
    percentDecode s = [0x2E, 0x2E] := by
  have points : (∃ rest, (lower s = '.' :: rest ∨ lower s = '%' :: '2' :: 'e' :: rest) ∧
      (rest = ['.'] ∨ rest = ['%', '2', 'e'])) := by
    have forms : lower s = ['.', '.'] ∨ lower s = ['%', '2', 'e', '.'] ∨
        lower s = ['.', '%', '2', 'e'] ∨ lower s = ['%', '2', 'e', '%', '2', 'e'] := by
      simpa [isDoubleDot] using dots
    rcases forms with form | form | form | form
    · exact ⟨_, .inl form, .inl rfl⟩
    · exact ⟨_, .inr form, .inl rfl⟩
    · exact ⟨_, .inl form, .inr rfl⟩
    · exact ⟨_, .inr form, .inr rfl⟩
  obtain ⟨rest, first, second⟩ := points
  obtain ⟨more, same, bytes⟩ := percentDecode_of_point first
  rw [← same] at second
  obtain ⟨end_, none, bytes'⟩ := percentDecode_of_point second
  rw [bytes, bytes', lower_eq_nil none, percentDecode]

private theorem isDot_segment :
    isDot (segment special name) = true ↔ visible name.toList = ['.'] := by
  constructor
  · intro dot
    have byte : percentDecode (segment special name) = encodeUtf8 (String.ofList ['.']) := by
      rw [percentDecode_of_isDot dot, encodeUtf8_eq, String.toList_ofList]
      rfl
    exact visible_eq_of_percentDecode byte
  · intro point
    rw [segment, point]
    cases special <;> decide

private theorem isDoubleDot_segment :
    isDoubleDot (segment special name) = true ↔ visible name.toList = ['.', '.'] := by
  constructor
  · intro dots
    have bytes : percentDecode (segment special name) = encodeUtf8 (String.ofList ['.', '.']) := by
      rw [percentDecode_of_isDoubleDot dots, encodeUtf8_eq, String.toList_ofList]
      rfl
    exact visible_eq_of_percentDecode bytes
  · intro points
    rw [segment, points]
    cases special <;> decide

end Points

/-! ### Reading a name behind a path -/

/-- A path that is long enough to have no drive at its end, and that has one slash at its start if
it is the path of a file. -/
structure Ready (file : Bool) (text : List Char) : Prop where
  long : 4 ≤ text.length
  rooted : file = true → ∃ c rest, text = '/' :: c :: rest ∧ c ≠ '/'

section Push

variable {file special : Bool} {text : List Char} {name : String}

theorem Ready.append (ready : Ready file text) (more : List Char) : Ready file (text ++ more) where
  long := by
    have long := ready.long
    rw [List.length_append]
    omega
  rooted := by
    intro isFile
    obtain ⟨c, rest, rfl, other⟩ := ready.rooted isFile
    exact ⟨c, rest ++ more, rfl, other⟩

private theorem Ready.ne_slash (ready : Ready file text) : text ≠ ['/'] := by
  rintro rfl
  have long := ready.long
  simp at long

private theorem isUsualDrive_tail (long : 4 ≤ text.length) : isUsualDrive text.tail = false := by
  match text, long with
  | _ :: b :: c :: d :: rest, _ => rfl

private theorem foldl_writeRun (r : Reading) (runs : List (List Char)) (place : Nat)
    (long : 4 ≤ text.length) :
    runs.foldl (writeRun r) (text, place) =
      (text ++ percentEncode r.escapes runs.flatten, place) := by
  induction runs generalizing text with
  | nil => simp [percentEncode]
  | cons run runs ih =>
    have step : writeRun r (text, place) run = (text ++ percentEncode r.escapes run, place) := by
      unfold writeRun
      cases run with
      | nil => simp [percentEncode]
      | cons c run => simp [isUsualDrive_tail long]
    have longer : 4 ≤ (text ++ percentEncode r.escapes run).length := by
      rw [List.length_append]
      omega
    rw [List.foldl_cons, step, ih longer, List.flatten_cons, percentEncode_append,
      List.append_assoc]

private theorem text_readSegment (file special : Bool) (long : 4 ≤ text.length) (name : String) :
    (readSegment ⟨file, fun _ => false, segmentSet special⟩ ⟨text ++ ['/'], false⟩
        name.toList false).text =
      if visible name.toList = ['.', '.'] then
        withoutLastSegment file (withoutEndSlash (text ++ ['/']))
      else if visible name.toList = ['.'] then text ++ ['/']
      else text ++ '/' :: segment special name := by
  have longer : 4 ≤ (text ++ ['/']).length := by
    rw [List.length_append]
    omega
  have runs : (partsBy isPassedOver name.toList).flatten = visible name.toList :=
    flatten_partsBy isPassedOver name.toList
  have some : text ≠ [] := List.ne_nil_of_length_pos (by omega)
  unfold readSegment
  rw [foldl_writeRun _ _ _ longer, runs, ← segment]
  simp only [List.take_left, List.drop_left, isDot_segment, isDoubleDot_segment]
  split
  · rfl
  · split
    · simp [closed, endsInSlash]
    · simp [some]

theorem dropWhile_slash (ready : Ready file text) :
    (if file then '/' :: text.dropWhile (· = '/') else text) = text := by
  cases file with
  | false => rfl
  | true =>
    obtain ⟨c, rest, rfl, other⟩ := ready.rooted rfl
    simp [other]

/-- What is put behind a path is read as one segment, and the path of a file keeps its one slash at
the start. -/
private theorem push_eq {after : List Char} (ready : Ready file text) (point : name ≠ ".")
    (points : name ≠ "..")
    (read : (readSegment ⟨file, fun _ => false, segmentSet special⟩ ⟨text ++ ['/'], false⟩
        name.toList false).text = after) (still : Ready file after) :
    push file special text name = after := by
  have parts : partsBy (fun _ => false) name.toList = [name.toList] := partsBy_of_all (by simp)
  have kept := dropWhile_slash still
  unfold push
  simp only [point, points, decide_false, Bool.or_self, Bool.false_eq_true, if_false,
    ready.ne_slash, AddressPath.read, parts, readSegments]
  cases file with
  | false => exact read
  | true => rwa [← read] at kept ⊢

private theorem ne_of_visible_ne {word : String} (plain : visible word.toList = word.toList)
    (other : visible name.toList ≠ word.toList) : name ≠ word := by
  rintro rfl
  exact other plain

theorem push_of_stands (ready : Ready file text) (stands : Stands name) :
    push file special text name = text ++ '/' :: segment special name := by
  obtain ⟨point, points⟩ := stands
  apply push_eq ready (ne_of_visible_ne rfl point) (ne_of_visible_ne rfl points)
  · rw [text_readSegment file special ready.long, if_neg points, if_neg point]
  · exact ready.append _

theorem push_of_points (points : name = "." ∨ name = "..") :
    push file special text name = text := by
  rcases points with rfl | rfl <;> rfl

theorem push_of_visible_point (ready : Ready file text) (other : name ≠ ".")
    (point : visible name.toList = ['.']) : push file special text name = text ++ ['/'] := by
  apply push_eq ready other
  · rintro rfl
    exact absurd point (by decide)
  · rw [text_readSegment file special ready.long, point]
    rfl
  · exact ready.append _

private theorem lastSegment_append {last : List Char} (whole : '/' ∉ last) (text : List Char) :
    lastSegment (text ++ '/' :: last) = last := by
  have all : ∀ c ∈ last.reverse, decide (c ≠ '/') = true := by
    intro c mem
    have within : c ∈ last := List.mem_reverse.mp mem
    exact decide_eq_true (ne_of_mem_of_not_mem within whole)
  have turned : (text ++ '/' :: last).reverse = last.reverse ++ '/' :: text.reverse := by simp
  rw [lastSegment, turned, List.takeWhile_append_of_pos all]
  simp

private theorem withoutEndSlash_append (inside : '/' ∈ text)
    (drive : beginsWithDrive (lastSegment text) = false) :
    withoutEndSlash (text ++ ['/']) = text := by
  simp [withoutEndSlash, endsInSlash, inside, drive]

theorem push_of_visible_points {last : List Char} (ready : Ready file (text ++ ['/']))
    (whole : '/' ∉ last) (drive : beginsWithDrive last = false) (usual : isUsualDrive last = false)
    (other : name ≠ "..") (points : visible name.toList = ['.', '.']) :
    push file special (text ++ '/' :: last) name = text ++ ['/'] := by
  have longer : Ready file (text ++ '/' :: last) := by
    have more := ready.append last
    rwa [List.append_assoc] at more
  have opened : withoutEndSlash (text ++ '/' :: last ++ ['/']) = text ++ '/' :: last := by
    apply withoutEndSlash_append
    · simp
    · rwa [lastSegment_append whole]
  have before : withoutLastSegment file (text ++ '/' :: last) = text ++ ['/'] := by
    have cut : text ++ '/' :: last = text ++ ['/'] ++ last := by simp
    simp only [withoutLastSegment, lastSegment_append whole, usual, Bool.and_false,
      Bool.false_eq_true, if_false]
    rw [cut, List.length_append, Nat.add_sub_cancel, List.take_left]
  apply push_eq longer _ other
  · rw [text_readSegment file special longer.long, if_pos points, opened, before]
  · exact ready
  · rintro rfl
    exact absurd points (by decide)

theorem foldl_push {names : List String} (ready : Ready file text)
    (stand : ∀ name ∈ names, Stands name) :
    names.foldl (push file special) text = text ++ slashed (names.map (segment special)) := by
  induction names generalizing text with
  | nil => simp [slashed]
  | cons name names ih =>
    obtain ⟨stands, later⟩ := List.forall_mem_cons.mp stand
    rw [List.foldl_cons, push_of_stands ready stands, ih (ready.append _) later]
    simp [slashed]

end Push

end PromptCanvas.AddressPath
