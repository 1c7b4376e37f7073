import PromptCanvas.Http
import PromptCanvas.Proofs.Address.Endpoints

/-!
The endpoints of a workspace.

The name of a workspace is any text.  Put behind `workspaces` it is one segment, and what is visible
of it can be read off that segment, so workspaces of which something else is visible have other
addresses.  Names of which one or two points are visible are the exception: they bring an empty
segment, take `workspaces` away, or bring nothing at all.
-/

set_option autoImplicit false
set_option relaxedAutoImplicit false

namespace PromptCanvas.Http

open Text AddressPath

namespace Client

/-- Whether the address of a client is one of a well-known scheme. -/
def special (c : Client) : Bool := Address.isSpecial c.base.scheme

def file (c : Client) : Bool := c.base.scheme = "file"

/-- The path of the address of a client, as far as endpoints stand behind it. -/
def trunk (c : Client) : List Char := AddressPath.trunk c.base.path.text.toList

def root (c : Client) : List Char := c.trunk ++ slashed ["api".toList, "v1".toList]

end Client

/-- The segments that the name of a workspace leads to behind `api/v1`. -/
def place (special : Bool) (workspace : String) : List (List Char) :=
  if workspace = "." ∨ workspace = ".." then ["workspaces".toList]
  else if visible workspace.toList = ['.'] then ["workspaces".toList, []]
  else if visible workspace.toList = ['.', '.'] then [[]]
  else ["workspaces".toList, segment special workspace]

section Place

variable {special : Bool} {workspace other : String}

private theorem place_of_stands (stands : Stands workspace) :
    place special workspace = ["workspaces".toList, segment special workspace] := by
  obtain ⟨point, points⟩ := stands
  have named : ¬(workspace = "." ∨ workspace = "..") := by
    rintro (rfl | rfl)
    · exact point rfl
    · exact points rfl
  rw [place, if_neg named, if_neg point, if_neg points]

private theorem place_inj (stands : Stands workspace) (stands' : Stands other) :
    place special workspace = place special other ↔
      visible workspace.toList = visible other.toList := by
  rw [place_of_stands stands, place_of_stands stands']
  simp [segment_inj]

private theorem slash_notMem_place {part : List Char} (mem : part ∈ place special workspace) :
    '/' ∉ part := by
  have own : '/' ∉ "workspaces".toList := by decide
  unfold place at mem
  split_ifs at mem <;>
    simp only [List.mem_cons, List.not_mem_nil, or_false] at mem
  · rwa [mem]
  · rcases mem with rfl | rfl
    · exact own
    · exact List.not_mem_nil
  · rw [mem]
    exact List.not_mem_nil
  · rcases mem with rfl | rfl
    · exact own
    · exact slash_notMem_segment special workspace

end Place

section Segments

variable {file : Bool} {text : List Char}

private theorem parts_slashed {segments : List (List Char)} (whole : ∀ part ∈ segments, '/' ∉ part)
    (text : List Char) : parts '/' (text ++ slashed segments) = parts '/' text ++ segments := by
  induction segments using List.reverseRec with
  | nil => simp [slashed]
  | append_singleton segments last ih =>
    have before : ∀ part ∈ segments, '/' ∉ part :=
      fun part mem => whole part (List.mem_append_left _ mem)
    have out : '/' ∉ last := whole last (List.mem_append_right _ (List.mem_singleton_self last))
    have single : parts '/' last = [last] := by
      apply partsBy_of_all
      intro c mem
      exact decide_eq_false (ne_of_mem_of_not_mem mem out)
    have cut : text ++ slashed (segments ++ [last]) = text ++ slashed segments ++ '/' :: last := by
      simp [slashed]
    rw [cut, parts, partsBy_append_cons (by simp), ← parts, ← parts, ih before, single,
      List.append_assoc]

private theorem push_workspace (special : Bool) (ready : Ready file text) (workspace : String) :
    ∃ after, Ready file after ∧ after = text ++ slashed (place special workspace) ∧
      push file special (push file special text "workspaces") workspace = after := by
  have first : push file special text "workspaces" = text ++ '/' :: "workspaces".toList := by
    rw [push_of_stands ready (by decide)]
    cases special <;> rfl
  have longer : Ready file (text ++ '/' :: "workspaces".toList) := ready.append _
  refine ⟨_, ready.append _, rfl, ?_⟩
  rw [first]
  by_cases named : workspace = "." ∨ workspace = ".."
  · rw [push_of_points named, place, if_pos named]
    simp [slashed]
  · by_cases point : visible workspace.toList = ['.']
    · rw [push_of_visible_point longer (fun same => named (.inl same)) point, place, if_neg named,
        if_pos point]
      simp [slashed]
    · by_cases points : visible workspace.toList = ['.', '.']
      · rw [push_of_visible_points (ready.append _) (by decide) (by decide) (by decide)
          (fun same => named (.inr same)) points, place, if_neg named, if_neg point, if_pos points]
        simp [slashed]
      · rw [push_of_stands longer ⟨point, points⟩, place_of_stands ⟨point, points⟩]
        simp [slashed]

end Segments

section Endpoint

variable {address : String} {token : Option String} {c : Client}

private theorem rooted_of_connect (connected : Client.connect address token = .ok c)
    (isFile : c.base.scheme = "file") : Rooted c.base.path.text.toList := by
  unfold Client.connect at connected
  split at connected
  · cases connected
  · next base read =>
    split at connected
    · cases connected
      exact Address.rooted_of_parse read isFile
    · cases connected

private theorem endpoint_push (connected : Client.connect address token = .ok c)
    (names : List String) :
    Ready c.file c.root ∧
      c.endpoint names =
        { c.base with
          path := .segmented (String.ofList (names.foldl (push c.file c.special) c.root)) } := by
  obtain ⟨ready, below⟩ :=
    Address.endpoint_api (rooted_of_connect connected) ("v1" :: names)
  have stands : Stands "v1" := by decide
  have own : segment c.special "v1" = "v1".toList := by
    cases c.special <;> rfl
  have version : push c.file c.special (c.trunk ++ "/api".toList) "v1" = c.root := by
    rw [Client.trunk, Client.file, push_of_stands ready stands, own, ← Client.trunk, Client.root]
    simp [slashed]
  constructor
  · rw [← version, Client.trunk, Client.file, push_of_stands ready stands]
    exact ready.append _
  · rw [← version]
    exact below

private theorem endpoint_eq (connected : Client.connect address token = .ok c) {names : List String}
    (stand : ∀ name ∈ names, Stands name) :
    c.endpoint names =
      { c.base with
        path := .segmented (String.ofList (c.root ++
          slashed (names.map (segment c.special)))) } := by
  obtain ⟨ready, below⟩ := endpoint_push connected names
  rw [below, foldl_push ready stand]

private theorem workspaceEndpoint_eq (connected : Client.connect address token = .ok c)
    (workspace : String) {names : List String} (stand : ∀ name ∈ names, Stands name) :
    c.workspaceEndpoint workspace names =
      { c.base with
        path := .segmented (String.ofList (c.root ++
          slashed (place c.special workspace ++ names.map (segment c.special)))) } := by
  obtain ⟨ready, below⟩ := endpoint_push connected ("workspaces" :: workspace :: names)
  obtain ⟨after, still, rfl, pushed⟩ := push_workspace c.special ready workspace
  have later : Client.workspaceEndpoint c workspace names =
      c.endpoint ("workspaces" :: workspace :: names) := rfl
  rw [later, below, List.foldl_cons, List.foldl_cons, pushed, foldl_push still stand]
  simp [slashed]

private theorem slashed_inj {segments segments' : List (List Char)}
    (whole : ∀ part ∈ segments, '/' ∉ part) (whole' : ∀ part ∈ segments', '/' ∉ part) :
    slashed segments = slashed segments' ↔ segments = segments' := by
  constructor
  · intro same
    have read := parts_slashed whole []
    have read' := parts_slashed whole' []
    rw [same, read'] at read
    exact (List.append_cancel_left read).symm
  · rintro rfl
    rfl

private theorem slash_notMem_segments {special : Bool} (names : List String) :
    ∀ part ∈ names.map (segment special), '/' ∉ part := by
  intro part mem
  obtain ⟨name, -, rfl⟩ := List.mem_map.mp mem
  exact slash_notMem_segment special name

/-- The scenes of two workspaces have one address just if their names lead to the same segments. -/
private theorem text_scene_inj (connected : Client.connect address token = .ok c)
    (workspace other : String) :
    (c.workspaceEndpoint workspace ["scene"]).text = (c.workspaceEndpoint other ["scene"]).text ↔
      place c.special workspace = place c.special other := by
  have stand : ∀ name ∈ ["scene"], Stands name := by decide
  have long : 2 ≤ c.root.length := by
    simp [Client.root, slashed]
  have whole (workspace : String) : ∀ part ∈ place c.special workspace ++
      ["scene"].map (segment c.special), '/' ∉ part := by
    intro part mem
    rcases List.mem_append.mp mem with own | later
    · exact slash_notMem_place own
    · exact slash_notMem_segments ["scene"] part later
  rw [workspaceEndpoint_eq connected workspace stand, workspaceEndpoint_eq connected other stand,
    Address.text_withPath_inj _ long, slashed_inj (whole workspace) (whole other)]
  exact List.append_left_inj _

/-- An endpoint has the segments of the address, `api`, `v1`, and one segment for each name that
stands, which says what is visible of it.  Two workspaces have one address for their scenes just if
their names lead to the same segments; of names that stand, just if the same is visible of both. -/
theorem endpoints_tell_names_apart (connected : Client.connect address token = .ok c) :
    (∀ names : List String, (∀ name ∈ names, Stands name) →
      parts '/' (c.endpoint names).path.text.toList =
        parts '/' c.trunk ++ ["api".toList, "v1".toList] ++ names.map (segment c.special)) ∧
    (∀ (workspace : String) (names : List String), (∀ name ∈ names, Stands name) →
      parts '/' (c.workspaceEndpoint workspace names).path.text.toList =
        parts '/' c.trunk ++ ["api".toList, "v1".toList] ++
          (place c.special workspace ++ names.map (segment c.special))) ∧
    (∀ name : String, percentDecode (segment c.special name) =
      encodeUtf8 (String.ofList (visible name.toList))) ∧
    (∀ workspace other : String,
      (c.workspaceEndpoint workspace ["scene"]).text =
          (c.workspaceEndpoint other ["scene"]).text ↔
        place c.special workspace = place c.special other) ∧
    (∀ workspace other : String, Stands workspace → Stands other →
      ((c.workspaceEndpoint workspace ["scene"]).text =
          (c.workspaceEndpoint other ["scene"]).text ↔
        visible workspace.toList = visible other.toList)) := by
  have prefixed : ∀ part ∈ ["api".toList, "v1".toList], '/' ∉ part := by decide
  refine ⟨?_, ?_, percentDecode_segment c.special, text_scene_inj connected, ?_⟩
  · intro names stand
    rw [endpoint_eq connected stand, AddressPath.text, String.toList_ofList,
      parts_slashed (slash_notMem_segments names), Client.root, parts_slashed prefixed]
  · intro workspace names stand
    have whole : ∀ part ∈ place c.special workspace ++ names.map (segment c.special),
        '/' ∉ part := by
      intro part mem
      rcases List.mem_append.mp mem with own | later
      · exact slash_notMem_place own
      · exact slash_notMem_segments names part later
    rw [workspaceEndpoint_eq connected workspace stand, AddressPath.text, String.toList_ofList,
      parts_slashed whole, Client.root, parts_slashed prefixed]
  · intro workspace other stands stands'
    rw [text_scene_inj connected, place_inj stands stands']

def tenant : Client :=
  { base :=
      { scheme := "http"
        authority := some ⟨none, .ipv6 [0, 0, 0, 0, 0, 0, 0, 1], some 8080⟩
        path := .segmented "/tenant/"
        query := none
        fragment := none }
    token := none }

private theorem connect_tenant : Client.connect "http://[::1]:8080/tenant/" none = .ok tenant := by
  decide +kernel

theorem spaced_slashed_and_foreign_apart :
    Client.connect "http://[::1]:8080/tenant/" none = .ok tenant ∧
      (tenant.workspaceEndpoint "my space" ["scene"]).text ≠
        (tenant.workspaceEndpoint "my/space" ["scene"]).text ∧
      (tenant.workspaceEndpoint "é%2F" ["scene"]).text ≠
        (tenant.workspaceEndpoint "é/" ["scene"]).text := by
  obtain ⟨-, -, -, -, apart⟩ := endpoints_tell_names_apart connect_tenant
  refine ⟨connect_tenant, ?_, ?_⟩
  · rw [Ne, apart "my space" "my/space" (by decide) (by decide)]
    decide
  · rw [Ne, apart "é%2F" "é/" (by decide) (by decide)]
    decide

/-- One point and two points are names of workspaces, too, and lead to one address; so do names
that differ in a tabulator. -/
theorem points_share_address :
    Client.connect "http://[::1]:8080/tenant/" none = .ok tenant ∧
      (tenant.workspaceEndpoint "." ["scene"]).text =
        "http://[::1]:8080/tenant/api/v1/workspaces/scene" ∧
      (tenant.workspaceEndpoint ".." ["scene"]).text =
        "http://[::1]:8080/tenant/api/v1/workspaces/scene" ∧
      (tenant.workspaceEndpoint "a\tb" ["scene"]).text =
        (tenant.workspaceEndpoint "ab" ["scene"]).text := by
  refine ⟨connect_tenant, ?_, ?_, ?_⟩ <;> decide +kernel

end Endpoint

end PromptCanvas.Http
