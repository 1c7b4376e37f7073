import PromptCanvas.Proofs.Address.Segments

set_option autoImplicit false
set_option relaxedAutoImplicit false

namespace PromptCanvas

open Text AddressPath

namespace AddressPath

/-- The text that segments are put behind when they are put behind a path. -/
def trunk (path : List Char) : List Char :=
  if withoutEmptyEnd path = ['/'] then [] else withoutEmptyEnd path

def Rooted (path : List Char) : Prop := ∃ rest, path = '/' :: rest ∧ rest.head? ≠ some '/'

section First

variable {file : Bool} {path cs : List Char}

private theorem rooted_read {r : Reading} (isFile : r.file = true) (path cs : List Char) :
    Rooted (read r path cs).text := by
  unfold read
  rw [if_pos isFile]
  refine ⟨_, rfl, ?_⟩
  intro slash
  have out := List.head?_dropWhile_not (fun c => decide (c = '/'))
    (readSegments r ⟨path, false⟩ (partsBy r.separates cs)).text
  rw [slash] at out
  simp at out

private theorem trunk_append_slash (path : List Char) :
    (if withoutEmptyEnd path = ['/'] then withoutEmptyEnd path else withoutEmptyEnd path ++ ['/']) =
      trunk path ++ ['/'] := by
  unfold trunk
  split
  · next only => exact only
  · rfl

private theorem Rooted.trunk (rooted : Rooted path) :
    AddressPath.trunk path = [] ∨
      ∃ c rest, AddressPath.trunk path = '/' :: c :: rest ∧ c ≠ '/' := by
  obtain ⟨rest, rfl, one⟩ := rooted
  cases rest with
  | nil => exact .inl rfl
  | cons c rest =>
    have other : c ≠ '/' := fun same => one (congrArg some same)
    right
    cases rest with
    | nil => exact ⟨c, [], by simp [AddressPath.trunk, withoutEmptyEnd, endsInSlash, other], other⟩
    | cons d rest =>
      unfold AddressPath.trunk withoutEmptyEnd
      split
      · exact ⟨c, (d :: rest).dropLast, by simp, other⟩
      · exact ⟨c, d :: rest, by simp, other⟩

private theorem text_readSegment_api (file special : Bool) (front : List Char) :
    (readSegment ⟨file, fun _ => false, segmentSet special⟩ ⟨front ++ ['/'], false⟩
        "api".toList false).text = front ++ "/api".toList := by
  have run : partsBy isPassedOver "api".toList = ["api".toList] := by decide
  have plain : percentEncode (segmentSet special) "api".toList = "api".toList := by
    cases special <;> decide
  have usual : isUsualDrive ((front ++ ['/']).drop 1) = false := by
    cases front with
    | nil => rfl
    | cons c front => simp [isUsualDrive]
  have written : writeRun ⟨file, fun _ => false, segmentSet special⟩
      (front ++ ['/'], (front ++ ['/']).length) "api".toList =
        (front ++ ['/'] ++ "api".toList, (front ++ ['/']).length) := by
    simp only [writeRun, usual, plain]
    simp
  have dots : isDoubleDot "api".toList = false := by decide
  have dot : isDot "api".toList = false := by decide
  have drive : isDrive "api".toList = false := by decide
  unfold readSegment
  rw [run, List.foldl_cons, List.foldl_nil, written]
  simp only [List.drop_left, dots, dot, drive]
  simp

private theorem push_api (special : Bool) (rooted : file = true → Rooted path) :
    push file special (withoutEmptyEnd path) "api" = trunk path ++ "/api".toList ∧
      Ready file (trunk path ++ "/api".toList) := by
  have ready : Ready file (trunk path ++ "/api".toList) := by
    constructor
    · simp
    · intro isFile
      rcases (rooted isFile).trunk with none | ⟨c, rest, some, other⟩
      · exact ⟨'a', "pi".toList, by rw [none]; rfl, by decide⟩
      · exact ⟨c, rest ++ "/api".toList, by rw [some]; rfl, other⟩
  refine ⟨?_, ready⟩
  have parts : partsBy (fun _ => false) "api".toList = ["api".toList] := rfl
  have kept := dropWhile_slash ready
  rw [← text_readSegment_api file special] at kept ⊢
  unfold push
  rw [trunk_append_slash, if_neg (by decide)]
  unfold AddressPath.read
  rw [parts]
  cases file with
  | false => rfl
  | true => exact kept

end First

end AddressPath

namespace Address

/-! ### The path of an address -/

def RootedPath (path : AddressPath) : Prop := Rooted path.text.toList

private theorem rootedPath_finished (path cs : List Char) :
    RootedPath (finished (readBehind "file" path cs)) := by
  rw [RootedPath, finished, AddressPath.text, String.toList_ofList]
  exact rooted_read (by decide) path cs

private theorem rootedPath_localFile (cs : List Char) : RootedPath (localFile cs).2 :=
  rootedPath_finished _ _

private theorem rootedPath_readPath (cs : List Char) :
    RootedPath (finished (readPath "file" cs)) := by
  have special : isSpecial "file" = true := by decide
  simp only [readPath, special, Bool.true_or, if_true]
  exact rootedPath_finished _ _

private theorem rootedPath_parseHostedFile {cs : List Char} {place : Authority × AddressPath}
    (read : parseHostedFile cs = .ok place) : RootedPath place.2 := by
  unfold parseHostedFile at read
  dsimp only at read
  split at read
  · cases read
    exact rootedPath_localFile _
  · split at read
    · cases read
      exact rootedPath_localFile _
    · cases host : Host.parseDomain (visible (cs.takeWhile fun c => !endsAuthority true c)) with
      | error e => simp [host, bind, Except.bind] at read
      | ok name =>
        simp only [host, bind, Except.bind] at read
        split at read
        · cases read
          exact rootedPath_localFile _
        · cases read
          exact rootedPath_readPath _

private theorem rootedPath_parseFile {cs : List Char} {place : Authority × AddressPath}
    (read : parseFile cs = .ok place) : RootedPath place.2 := by
  unfold parseFile at read
  split at read
  · cases read
    exact rootedPath_localFile _
  · split at read
    · cases read
      exact rootedPath_localFile _
    · split at read
      · split at read
        · exact rootedPath_parseHostedFile read
        · cases read
          exact rootedPath_localFile _
      · cases read
        exact rootedPath_localFile _

theorem rooted_of_parse {cs : List Char} {a : Address} (read : parse cs = .ok a)
    (isFile : a.scheme = "file") : Rooted a.path.text.toList := by
  unfold parse at read
  split at read
  · cases read
  · next scheme rest _ =>
    dsimp only at read
    split at read
    · cases read
    · next authority path body =>
      cases read
      subst isFile
      rw [parseBody, if_pos rfl] at body
      cases file : parseFile (splitTail rest).1 with
      | error e => simp [file, Except.map] at body
      | ok place =>
        rw [file] at body
        cases body
        exact rootedPath_parseFile file

/-! ### Endpoints -/

theorem endpoint_api {a : Address} (rooted : a.scheme = "file" → Rooted a.path.text.toList)
    (names : List String) :
    Ready (a.scheme = "file") (trunk a.path.text.toList ++ "/api".toList) ∧
      a.endpoint ("api" :: names) =
        { a with
          path := .segmented (String.ofList
            (names.foldl (push (a.scheme = "file") (isSpecial a.scheme))
              (trunk a.path.text.toList ++ "/api".toList))) } := by
  obtain ⟨pushed, ready⟩ := push_api (isSpecial a.scheme)
    (fun isFile => rooted (of_decide_eq_true isFile))
  refine ⟨ready, ?_⟩
  rw [endpoint, List.foldl_cons, pushed]

/-- Two addresses that differ in their paths only, which begin alike, are written alike just if the
paths are. -/
theorem text_withPath_inj (a : Address) {front back back' : List Char} (long : 2 ≤ front.length) :
    ({ a with path := .segmented (String.ofList (front ++ back)) } : Address).text =
        ({ a with path := .segmented (String.ofList (front ++ back')) } : Address).text ↔
      back = back' := by
  have slashes (back : List Char) :
      (String.ofList (front ++ back)).startsWith "//" = true ↔ ['/', '/'] <+: front := by
    simp only [String.startsWith_string_iff, String.toList_ofList]
    constructor
    · intro begins
      exact List.prefix_of_prefix_length_le begins (List.prefix_append _ _) long
    · intro begins
      exact begins.trans (List.prefix_append _ _)
  unfold text bodyText
  rw [← String.toList_inj]
  cases a.authority with
  | none =>
    simp only [AddressPath.text, slashes, queryText]
    split <;> simp
  | some authority => simp [AddressPath.text, queryText]

end Address

end PromptCanvas
