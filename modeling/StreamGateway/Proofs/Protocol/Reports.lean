import StreamGateway.Proofs.Json.Legibility
import StreamGateway.Proofs.Protocol.Atomicity

/-! # Errors that reach the client

Errors and their extensions come as texts with the shape of a value, and the object protocols write
them as they are. On a channel the answer is built from values, so a text that cannot be read as one
breaks the call: nothing is written and no error is returned. That happens only for texts that go
beyond what values can hold or that use the key of embedded documents (`Json.Raw.Exceeds`); all
others reach the client in one frame. -/
namespace StreamGateway

open Json (Raw)

/-- The text can be read as a value. -/
def Json.Raw.IsValue (raw : Raw) : Prop := ∃ v, Json.parse raw.text = .ok v

/-- The text has too much of something to be a value, or mentions the key that embeds a document. -/
def Json.Raw.Exceeds (raw : Raw) : Prop :=
  (∃ problem, problem.Beyond ∧ Json.parse raw.text = .error problem) ∨
    Json.Mentions Json.embeddedKey raw.text.toList

theorem Json.Raw.exceeds_of_not_isValue {raw : Raw} (h : raw.IsJson) (hvalue : ¬raw.IsValue) :
    raw.Exceeds := (Json.parse_of_isJson h).resolve_left hvalue

namespace Session

theorem errorsResponse_ok_iff {errors : Raw} {extensions : Option Raw} :
    (∃ response, errorsResponse errors extensions = .ok response) ↔
      errors.IsValue ∧ ∀ raw ∈ extensions, raw.IsValue := by
  refine ⟨?_, fun h => errorsResponse_ok h.1 h.2⟩
  rintro ⟨response, h⟩
  rw [errorsResponse] at h
  split at h <;> rename_i herrors hextensions
  · rw [Option.map_eq_none_iff] at hextensions
    subst hextensions
    exact ⟨⟨_, herrors⟩, fun raw hraw => absurd hraw (Option.not_mem_none raw)⟩
  · obtain ⟨raw, rfl, hraw⟩ := Option.map_eq_some_iff.mp hextensions
    refine ⟨⟨_, herrors⟩, ?_⟩
    rintro _ ⟨⟩
    exact ⟨_, hraw⟩
  · cases h

/-- The object protocols write errors whatever they are. -/
theorem errorsFrame_of_object {s : Session} {id : String} (hp : s.subprotocol ≠ .absinthe)
    (hid : id ∈ s.opened) (errors : Raw) (extensions : Option Raw) :
    ∃ frame, s.errorsFrame id errors extensions = .ok frame := by
  rw [errorsFrame, isOpen_iff.mpr hid, if_neg (by decide)]
  cases hs : s.subprotocol with
  | transport => exact ⟨_, rfl⟩
  | legacy => exact ⟨_, rfl⟩
  | absinthe => exact absurd hs hp

end Session

namespace Link

variable {τ : Type} [Transport τ] {log : τ → List String}

/-- The errors have gone out in one frame, and nothing else has changed. -/
def Reports (log : τ → List String) (l : Link τ) (id : String) (errors : Raw)
    (extensions : Option Raw) : Prop :=
  (l.writeErrors id errors extensions).1 = .ok () ∧
    (∃ frame, log (l.writeErrors id errors extensions).2.transport = log l.transport ++ [frame]) ∧
    (l.writeErrors id errors extensions).2.session = l.session

theorem reports_of_send (hlog : Transport.Logs log) {l : Link τ}
    (hopen : ∀ frame, (l.send frame).1 = .ok ()) {id frame : String} {errors : Raw}
    {extensions : Option Raw} (h : l.writeErrors id errors extensions =
      ((l.send frame).1.mapError Failure.error, (l.send frame).2)) :
    l.Reports log id errors extensions := by
  rw [Reports, h, hopen frame]
  exact ⟨rfl, ⟨frame, hlog.sent l.transport frame (hopen frame)⟩, rfl⟩

theorem not_reports_of_crash {l : Link τ} {id : String} {errors : Raw} {extensions : Option Raw}
    (h : l.writeErrors id errors extensions = (.error .crash, l)) :
    ¬l.Reports log id errors extensions := by
  rw [Reports, h]
  rintro ⟨hok, -⟩
  cases hok

/-- On a channel an open operation's errors are reported exactly if they are values; otherwise the
call breaks. -/
theorem reports_channel (hlog : Transport.Logs log) {l : Link τ}
    (hopen : ∀ frame, (l.send frame).1 = .ok ()) (hp : l.session.subprotocol = .absinthe)
    {id : String} (hid : id ∈ l.session.opened) {origin : Origin}
    (horigin : l.session.origin? id = some origin) (errors : Raw) (extensions : Option Raw) :
    (errors.IsValue ∧ (∀ raw ∈ extensions, raw.IsValue) ∧ l.Reports log id errors extensions) ∨
      (¬(errors.IsValue ∧ ∀ raw ∈ extensions, raw.IsValue) ∧
        l.writeErrors id errors extensions = (.error .crash, l)) := by
  cases hresponse : Session.errorsResponse errors extensions with
  | ok response =>
    obtain ⟨herrors, hextensions⟩ := Session.errorsResponse_ok_iff.mp ⟨response, hresponse⟩
    exact Or.inl ⟨herrors, hextensions,
      reports_of_send hlog hopen (writeErrors_of_origin hp hid horigin hresponse)⟩
  | error f =>
    refine Or.inr ⟨fun hvalues => ?_, writeErrors_of_not_values hp hid horigin hresponse⟩
    obtain ⟨response, hok⟩ := Session.errorsResponse_ok_iff.mpr hvalues
    rw [hresponse] at hok
    cases hok

/-- **Errors are reported, except on a channel when they are not values.** In every state that a
link can come to and for every operation that is open, over a connection that takes what it is
given: errors and extensions with the shape of a value go out in one frame, unless the link is a
channel and one of them cannot be read as a value. The call then breaks without a word, and the text
is one that exceeds what values can hold. -/
theorem errors_reported_iff (hlog : Transport.Logs log) (p : Subprotocol) (transport : τ)
    (calls : List (Call τ)) (id : String) (errors : Raw) (extensions : Option Raw) :
    let l := (fresh p transport).performAll calls
    id ∈ l.session.opened → (∀ frame, (l.send frame).1 = .ok ()) → errors.IsJson →
      (∀ raw ∈ extensions, raw.IsJson) →
      (l.Reports log id errors extensions ↔
        (p = .absinthe → errors.IsValue ∧ ∀ raw ∈ extensions, raw.IsValue)) ∧
      (¬l.Reports log id errors extensions →
        l.writeErrors id errors extensions = (.error .crash, l) ∧
          ∃ raw ∈ errors :: extensions.toList, raw.Exceeds) := by
  intro l hid hopen herrors hextensions
  have hsubprotocol : l.session.subprotocol = p := performAll_subprotocol (fresh p transport) calls
  by_cases hp : p = .absinthe
  · obtain ⟨origin, horigin⟩ := exists_origin hp hid
    rcases reports_channel hlog hopen (hsubprotocol.trans hp) hid horigin errors extensions with
      ⟨hvalue, hvalues, hreports⟩ | ⟨hvalues, hcrash⟩
    · exact ⟨⟨fun _ _ => ⟨hvalue, hvalues⟩, fun _ => hreports⟩, fun hnot => absurd hreports hnot⟩
    · refine ⟨⟨fun hreports => absurd hreports (not_reports_of_crash hcrash),
        fun h => absurd (h hp) hvalues⟩, fun _ => ⟨hcrash, ?_⟩⟩
      by_cases hvalue : errors.IsValue
      · have hsome : ∃ raw ∈ extensions, ¬raw.IsValue := by
          by_contra hall
          exact hvalues ⟨hvalue, fun raw hraw => by_contra fun hnot => hall ⟨raw, hraw, hnot⟩⟩
        obtain ⟨raw, hraw, hnot⟩ := hsome
        exact ⟨raw, List.mem_cons_of_mem _ (Option.mem_toList.mpr hraw),
          Raw.exceeds_of_not_isValue (hextensions raw hraw) hnot⟩
      · exact ⟨errors, List.mem_cons_self, Raw.exceeds_of_not_isValue herrors hvalue⟩
  · obtain ⟨frame, hframe⟩ :=
      Session.errorsFrame_of_object (fun h => hp (hsubprotocol.symm.trans h)) hid errors extensions
    have hreports : l.Reports log id errors extensions :=
      reports_of_send hlog hopen (writeErrors_of_frame hframe)
    exact ⟨⟨fun _ h => absurd h hp, fun _ => hreports⟩, fun hnot => absurd hreports hnot⟩

/-! ### A channel with one operation -/

/-- A client has joined a channel and asked for one operation. -/
def asked : List (Call ScriptedTransport) :=
  [.stir (·.push (Conversation.greeting .absinthe)), .handshake] ++ asks "1" "a"

theorem performAll_asked :
    ∃ t : ScriptedTransport, t.Calm ∧ (fresh .absinthe ({} : ScriptedTransport)).performAll asked =
      ⟨Session.openFrom { subprotocol := .absinthe, initialized := true }
        (Subprotocol.channelId "7") (document "1" "a").origin, t⟩ := by
  let greeted : Session := { subprotocol := .absinthe, initialized := true }
  obtain ⟨t₀, ht₀, hgreeted⟩ : ∃ t, t.Calm ∧ (fresh .absinthe ({} : ScriptedTransport)).performAll
      [.stir (·.push (Conversation.greeting .absinthe)), .handshake] = ⟨greeted, t⟩ :=
    ⟨_, ⟨rfl, rfl, rfl, rfl⟩, rfl⟩
  obtain ⟨t, ht, hasked⟩ := performAll_asks (l := ⟨greeted, t₀⟩) rfl rfl ht₀ "1" "a"
  exact ⟨t, ht, by rw [asked, performAll_append, hgreeted, hasked]⟩

theorem opened_asked :
    Subprotocol.channelId "7" ∈
        ((fresh .absinthe ({} : ScriptedTransport)).performAll asked).session.opened ∧
      ∀ frame, (((fresh .absinthe ({} : ScriptedTransport)).performAll asked).send frame).1 =
        .ok () := by
  obtain ⟨t, ht, hasked⟩ := performAll_asked
  rw [hasked]
  refine ⟨(Session.openFrom_opens _ _ _ _).mpr (Or.inl ⟨rfl, Subprotocol.channelId_ne_empty _⟩),
    fun frame => ?_⟩
  obtain ⟨t', -, hsend⟩ := send_calm (l := ⟨_, t⟩) ht frame
  rw [hsend]

theorem errors_reported_iff_asked :
    (⟨"[\x7b\"message\":\"boom\"\x7d]"⟩ : Raw).IsJson ∧ (⟨"\x7b\"code\":7\x7d"⟩ : Raw).IsJson ∧
      Subprotocol.channelId "7" ∈
        ((fresh .absinthe ({} : ScriptedTransport)).performAll asked).session.opened ∧
      ((fresh .absinthe ({} : ScriptedTransport)).performAll asked).Reports ScriptedTransport.log
        (Subprotocol.channelId "7") ⟨"[\x7b\"message\":\"boom\"\x7d]"⟩
          (some ⟨"\x7b\"code\":7\x7d"⟩) := by
  have herrors : (⟨"[\x7b\"message\":\"boom\"\x7d]"⟩ : Raw).IsJson := by decide +kernel
  have hextensions : (⟨"\x7b\"code\":7\x7d"⟩ : Raw).IsJson := by decide +kernel
  obtain ⟨hid, hopen⟩ := opened_asked
  obtain ⟨hiff, -⟩ := errors_reported_iff ScriptedTransport.logs .absinthe {} asked
    (Subprotocol.channelId "7") ⟨"[\x7b\"message\":\"boom\"\x7d]"⟩
      (some ⟨"\x7b\"code\":7\x7d"⟩) hid hopen
    herrors (by rintro _ ⟨⟩; exact hextensions)
  refine ⟨herrors, hextensions, hid, hiff.mpr fun _ => ⟨⟨_, rfl⟩, ?_⟩⟩
  rintro _ ⟨⟩
  exact ⟨_, rfl⟩

/-- Errors that hold a number too large for any value break the call, although the operation is open
and the connection takes what it is given. -/
theorem large_number_breaks_report :
    (⟨"[\x7b\"message\":\"boom\",\"code\":1e999\x7d]"⟩ : Raw).IsJson ∧
      let l := (fresh .absinthe ({} : ScriptedTransport)).performAll asked
      Subprotocol.channelId "7" ∈ l.session.opened ∧ (∀ frame, (l.send frame).1 = .ok ()) ∧
        l.writeErrors (Subprotocol.channelId "7")
          ⟨"[\x7b\"message\":\"boom\",\"code\":1e999\x7d]"⟩ none = (.error .crash, l) := by
  obtain ⟨hid, hopen⟩ := opened_asked
  obtain ⟨origin, horigin⟩ := exists_origin (p := .absinthe) rfl hid
  have hresponse : Session.errorsResponse ⟨"[\x7b\"message\":\"boom\",\"code\":1e999\x7d]"⟩ none =
      .error .crash := rfl
  exact ⟨by decide +kernel, hid, hopen, writeErrors_of_not_values
    (performAll_subprotocol (fresh .absinthe ({} : ScriptedTransport)) asked) hid horigin hresponse⟩

end Link
end StreamGateway
