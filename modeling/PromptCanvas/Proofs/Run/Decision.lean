import PromptCanvas.Proofs.Json.Record
import PromptCanvas.Run.Event
import PromptCanvas.Service.Memory

set_option autoImplicit false
set_option relaxedAutoImplicit false

namespace PromptCanvas

open Json

variable {α : Type}

def Cue.item? : Cue α → Option (Except ServiceError (Json α))
  | opening | pause _ => none
  | item result => some result
  | publish _ payload => some (.ok payload)

def RunStream.items (stream : RunStream α) : List (Except ServiceError (Json α)) :=
  stream.cues.filterMap Cue.item?

/-- What a look at a stream shows is the next thing that arrives, unless it is a pause or the
end. -/
inductive RunStream.Next (stream : RunStream α) : StreamStep α → Prop
  | item {result : Except ServiceError (Json α)} {rest : RunStream α}
      (arrives : stream.items = result :: rest.items)
      (shorter : rest.cues.length < stream.cues.length) : Next stream (.item result rest)
  | pause {duration : Nat} {rest : RunStream α} (same : rest.items = stream.items)
      (shorter : rest.cues.length < stream.cues.length) : Next stream (.pause duration rest)
  | ended (nothing : stream.items = []) : Next stream .ended

private theorem RunStream.Next.opening {cues : List (Cue α)} {counted : Bool} {shown : StreamStep α}
    (next : RunStream.Next ⟨cues, true⟩ shown) :
    RunStream.Next ⟨.opening :: cues, counted⟩ shown := by
  cases next with
  | item arrives shorter => exact .item arrives (Nat.lt_succ_of_lt shorter)
  | pause same shorter => exact .pause same (Nat.lt_succ_of_lt shorter)
  | ended nothing => exact .ended nothing

theorem Memory.next_spec (m : Memory α) (stream : RunStream α) :
    stream.Next (m.next stream.counted stream.cues).1 := by
  obtain ⟨cues, counted⟩ := stream
  induction cues generalizing m counted with
  | nil => exact .ended rfl
  | cons cue rest ih =>
    cases cue with
    | opening => exact (ih m.opened true).opening
    | pause duration => exact .pause rfl (Nat.lt_succ_self _)
    | item result => exact .item rfl (Nat.lt_succ_self _)
    | publish asset payload => exact .item rfl (Nat.lt_succ_self _)

namespace RunEvent

/-- What the arrival of something decides about an element: a failure, if the stream fails, and a
result, if it may be meant for the element. -/
def decisive? (key : Key) : Except ServiceError (Json α) → Option RunEvent
  | .error e => some (.imageError ("result stream failed: " ++ e.message) none)
  | .ok json => (ofJson? json).filter fun event => event.concerns key

/-- What a stream decides about an element: the first that anything on it decides, or a failure if
nothing does. -/
def decision (key : Key) (items : List (Except ServiceError (Json α))) : RunEvent :=
  (items.findSome? (decisive? key)).getD (.imageError "result stream ended" none)

variable {key : Key} {item : Except ServiceError (Json α)}
  {items : List (Except ServiceError (Json α))} {event : RunEvent}

theorem decision_of_decisive (decisive : decisive? key item = some event) :
    decision key (item :: items) = event := by
  rw [decision, List.findSome?_cons_of_isSome (by rw [decisive]; rfl), decisive]
  rfl

theorem decision_of_indecisive (indecisive : decisive? key item = none) :
    decision key (item :: items) = decision key items := by
  rw [decision, List.findSome?_cons, indecisive]
  rfl

theorem concerns_of_decisive (decisive : decisive? key item = some event) :
    event.concerns key = true := by
  cases item with
  | error e =>
    obtain rfl := Option.some.inj decisive
    rfl
  | ok json => exact (Option.filter_eq_some_iff.mp decisive).2

theorem concerns_decision (key : Key) (items : List (Except ServiceError (Json α))) :
    (decision key items).concerns key = true := by
  unfold decision
  cases found : items.findSome? (decisive? key) with
  | none => rfl
  | some event =>
    obtain ⟨item, -, decisive⟩ := List.exists_of_findSome?_eq_some found
    exact concerns_of_decisive decisive

def words? : Json α → Option (Json α)
  | .obj members => members.lookup "message"
  | .arr items => items.head?
  | _ => none

/-- The text that a payload gives as its message, or else the default. -/
def reason (payload : Json α) : String := ((words? payload).bind text?).getD defaultFailure

private theorem of_errorReader {fields fields' : Fields α}
    (read : errorReader fields = some (event, fields')) :
    ∃ found after target, nextField "message" fields = some (found, after) ∧
      event = .imageError ((found.bind text?).getD defaultFailure) target := by
  obtain ⟨message, between, first, rest⟩ := exists_of_bind read
  obtain ⟨target, last, -, made⟩ := exists_of_bind rest
  obtain ⟨found, looked, rfl⟩ := eq_of_optional_text first
  cases made
  exact ⟨found, between, target, looked, rfl⟩

private theorem of_doneReader {fields fields' : Fields α}
    (read : doneReader fields = some (event, fields')) :
    ∃ asset target, event = .imageDone asset target := by
  obtain ⟨asset, between, -, rest⟩ := exists_of_bind read
  obtain ⟨target, last, -, made⟩ := exists_of_bind rest
  cases made
  exact ⟨asset, target, rfl⟩

theorem message_of_ofJson? {json : Json α} {message : String} {target : Option String}
    (read : ofJson? json = some (.imageError message target)) :
    message = reason ((json.get? "payload").getD .null) := by
  unfold ofJson? at read
  split at read
  · obtain ⟨fields, fields', took, -⟩ := exists_of_record? read
    obtain ⟨asset, meant, same⟩ := of_doneReader took
    cases same
  · obtain ⟨fields, fields', took, which⟩ := exists_of_record? read
    obtain ⟨found, after, meant, looked, same⟩ := of_errorReader took
    cases same
    rcases which with ⟨members, payload, rfl⟩ | ⟨items, payload, rfl⟩
    · rw [reason, payload]
      cases looked
      rfl
    · rw [reason, payload]
      cases items <;> cases looked <;> rfl
  · cases read

end RunEvent

end PromptCanvas
