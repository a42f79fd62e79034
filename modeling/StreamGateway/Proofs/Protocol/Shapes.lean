import StreamGateway.Proofs.Json.Shapes
import StreamGateway.Proofs.Protocol.Framing
import StreamGateway.Proofs.Protocol.Gate
import StreamGateway.Simulation.ScriptedTransport
import StreamGateway.WebSocket.Connection

/-! # The texts that a protocol takes

Where the parts of a frame stand in the text it is read from (`ObjectFrame.StandsIn`,
`ChannelFrame.StandsIn`). A message of an object protocol is an object with a type and perhaps an
id. But its reader takes a second form as well, the list of the frame's fields in their order: a
list of two strings, or of two strings and any value, counts as a frame with that id, that type and
that payload. These lists are the only texts that are not objects of the right shape and are not
reported as malformed (`Link.malformed_unless_list`). -/
namespace StreamGateway

open Json (Raw Problem Around IsObject IsList Writes Lexical Reads)

/-- The text is an object with a type. Its type is a string, and so is its id if there is one. -/
def ObjectShaped (text : String) : Prop :=
  ∃ ms, Around (IsObject ms) text ∧ "type" ∈ ms.map Prod.fst ∧
    ∀ m ∈ ms, m.1 = "type" ∨ m.1 = "id" → ∃ s, Writes s m.2

/-- The text is a list of two strings, or of two strings and a value. -/
def ListShaped (text : String) : Prop :=
  ∃ id type more, Around (IsList (id :: type :: more)) text ∧ more.length ≤ 1 ∧
    (∃ s, Writes s id) ∧ ∃ s, Writes s type

theorem dropWhile_of_around {c : Char} (hc : Json.isBlank c = false) {P : List Char → Prop}
    {text : String} (h : Around (Json.After c P) text) :
    ∃ t, text.toList.dropWhile Json.isBlank = c :: t := by
  obtain ⟨bs, _, hbs, ⟨_, rest, ⟨t, -, rfl⟩, -, rfl⟩, htext⟩ := h
  rw [htext, List.dropWhile_append_of_pos hbs, List.cons_append,
    List.dropWhile_cons_of_neg (by simp [hc])]
  exact ⟨_, rfl⟩

/-- What begins as a list does is no object. -/
theorem not_objectShaped_of_bracket {text : String}
    (h : (text.toList.dropWhile Json.isBlank).head? = some '[') : ¬ObjectShaped text := by
  rintro ⟨ms, hobject, -⟩
  obtain ⟨t, ht⟩ : ∃ t, text.toList.dropWhile Json.isBlank = '\x7b' :: t := by
    cases ms with
    | nil => exact dropWhile_of_around (by decide) hobject
    | cons m ms => exact dropWhile_of_around (by decide) hobject
  rw [ht] at h
  cases h

/-! ## Frames -/

namespace ObjectFrame

theorem lexical_fields : ∀ f ∈ record.fields, ∀ s, Lexical (f.read s) := by
  intro f hf s
  simp only [record, List.mem_cons, List.not_mem_nil, or_false] at hf
  rcases hf with rfl | rfl | rfl
  · exact Json.lexical_readString.map fun id => { s with id }
  · exact Json.lexical_readString.map fun type => { s with type }
  · exact (Json.lexical_raw.optional).map fun payload => { s with payload }

/-- The text of a payload; where there is none stands `null`. -/
def payloadText : Option Raw → List Char
  | none => "null".toList
  | some raw => raw.text.toList

theorem exists_of_reads_id {s s' : ObjectFrame} {v : List Char}
    (h : Reads (record.fields[0].read s) v s') : ∃ id, Writes id v ∧ s' = { s with id } := by
  obtain ⟨id, hreads, rfl⟩ :=
    Json.lexical_readString.reads_of_map (fun id => ({ s with id } : ObjectFrame)) h
  exact ⟨id, Json.writes_of_reads hreads, rfl⟩

theorem exists_of_reads_type {s s' : ObjectFrame} {v : List Char}
    (h : Reads (record.fields[1].read s) v s') : ∃ type, Writes type v ∧ s' = { s with type } := by
  obtain ⟨type, hreads, rfl⟩ :=
    Json.lexical_readString.reads_of_map (fun type => ({ s with type } : ObjectFrame)) h
  exact ⟨type, Json.writes_of_reads hreads, rfl⟩

theorem exists_of_reads_payload {s s' : ObjectFrame} {v : List Char}
    (h : Reads (record.fields[2].read s) v s') :
    ∃ payload, v = payloadText payload ∧ s' = { s with payload } := by
  obtain ⟨payload, hreads, rfl⟩ :=
    Json.lexical_raw.optional.reads_of_map (fun payload => ({ s with payload } : ObjectFrame)) h
  refine ⟨payload, ?_, rfl⟩
  obtain ⟨rfl, hv⟩ | ⟨raw, rfl, hraw⟩ := Json.lexical_raw.reads_of_optional hreads
  · exact hv
  · exact Json.eq_of_reads_raw hraw

/-- What a field makes of a value. -/
theorem reads_cases {g : Json.Field ObjectFrame} (hg : g ∈ record.fields) {s s' : ObjectFrame}
    {v : List Char} (h : Reads (g.read s) v s') :
    (g.name = "id" ∧ ∃ id, Writes id v ∧ s' = { s with id }) ∨
      (g.name = "type" ∧ ∃ type, Writes type v ∧ s' = { s with type }) ∨
      g.name = "payload" ∧ ∃ payload, v = payloadText payload ∧ s' = { s with payload } := by
  simp only [record, List.mem_cons, List.not_mem_nil, or_false] at hg
  rcases hg with rfl | rfl | rfl
  · exact Or.inl ⟨rfl, exists_of_reads_id h⟩
  · exact Or.inr (Or.inl ⟨rfl, exists_of_reads_type h⟩)
  · exact Or.inr (Or.inr ⟨rfl, exists_of_reads_payload h⟩)

/-- How a frame stands in a text. In an object, its parts are the members of their names, and no id
or no payload means an empty one or none; in a list, they come in their order, and the payload may
be left out. -/
inductive StandsIn (f : ObjectFrame) (text : String) : Prop where
  | object (ms : List (String × List Char)) (htext : Around (IsObject ms) text)
      (hid : ms.lookup "id" = none ∧ f.id = "" ∨ ∃ v, ms.lookup "id" = some v ∧ Writes f.id v)
      (htype : ∃ v, ms.lookup "type" = some v ∧ Writes f.type v)
      (hpayload : (ms.lookup "payload").getD "null".toList = payloadText f.payload)
  | list (id type : List Char) (more : List (List Char))
      (htext : Around (IsList (id :: type :: more)) text)
      (hid : Writes f.id id) (htype : Writes f.type type)
      (hpayload : more = [] ∧ f.payload = none ∨ more = [payloadText f.payload])

/-- The values of a list that is read as a frame. -/
theorem exists_of_fills {f : ObjectFrame} {vs : List (List Char)}
    (h : Json.Record.Fills record.fields { type := "" } vs f) :
    ∃ id type more, vs = id :: type :: more ∧ Writes f.id id ∧ Writes f.type type ∧
      (more = [] ∧ f.payload = none ∨ more = [payloadText f.payload]) := by
  cases h with
  | done hoptional => exact absurd (hoptional _ (.tail _ (.head _))) (by decide)
  | next hreads hs =>
    obtain ⟨id, hid, rfl⟩ := exists_of_reads_id hreads
    cases hs with
    | done hoptional => exact absurd (hoptional _ (.head _)) (by decide)
    | next hreads hs =>
      obtain ⟨type, htype, rfl⟩ := exists_of_reads_type hreads
      cases hs with
      | done => exact ⟨_, _, _, rfl, hid, htype, Or.inl ⟨rfl, rfl⟩⟩
      | next hreads hs =>
        obtain ⟨payload, rfl, rfl⟩ := exists_of_reads_payload hreads
        cases hs with
        | done => exact ⟨_, _, _, rfl, hid, htype, Or.inr rfl⟩

theorem standsIn_of_collects {f : ObjectFrame} {text : String} {ms : List (String × List Char)}
    (htext : Around (IsObject ms) text) (htype : "type" ∈ ms.map Prod.fst)
    (h : record.Collects { type := "" } ms f) : f.StandsIn text := by
  have hid := h.lookup ObjectFrame.id (f := record.fields[0]) rfl fun g hg hname s v s' hreads => by
    rcases reads_cases hg hreads with ⟨heq, -⟩ | ⟨-, _, -, rfl⟩ | ⟨-, _, -, rfl⟩
    · exact absurd heq hname
    · rfl
    · rfl
  have htype' := h.lookup ObjectFrame.type (f := record.fields[1]) rfl
    fun g hg hname s v s' hreads => by
    rcases reads_cases hg hreads with ⟨-, _, -, rfl⟩ | ⟨heq, -⟩ | ⟨-, _, -, rfl⟩
    · rfl
    · exact absurd heq hname
    · rfl
  have hpayload := h.lookup ObjectFrame.payload (f := record.fields[2]) rfl
    fun g hg hname s v s' hreads => by
    rcases reads_cases hg hreads with ⟨-, _, -, rfl⟩ | ⟨-, _, -, rfl⟩ | ⟨heq, -⟩
    · rfl
    · rfl
    · exact absurd heq hname
  refine .object ms htext ?_ ?_ ?_
  · obtain ⟨hnone, hkept⟩ | ⟨v, s₁, s₂, hv, hreads, hplace⟩ := hid
    · exact Or.inl ⟨hnone, hkept⟩
    · obtain ⟨id, hwrites, rfl⟩ := exists_of_reads_id hreads
      exact Or.inr ⟨v, hv, hplace ▸ hwrites⟩
  · obtain ⟨hnone, -⟩ | ⟨v, s₁, s₂, hv, hreads, hplace⟩ := htype'
    · obtain ⟨m, hm, hname⟩ := List.mem_map.mp htype
      have hne := List.lookup_eq_none_iff.mp hnone m hm
      simp [record, hname] at hne
    · obtain ⟨type, hwrites, rfl⟩ := exists_of_reads_type hreads
      exact ⟨v, hv, hplace ▸ hwrites⟩
  · obtain ⟨hnone, hkept⟩ | ⟨v, s₁, s₂, hv, hreads, hplace⟩ := hpayload
    · have hmissing : ms.lookup "payload" = none := hnone
      rw [hmissing, hkept]
      rfl
    · obtain ⟨payload, rfl, rfl⟩ := exists_of_reads_payload hreads
      have hfound : ms.lookup "payload" = some (payloadText payload) := hv
      rw [hfound, hplace]
      rfl

/-- What is read as a frame stands in the text. -/
theorem standsIn_of_parse {text : String} {f : ObjectFrame} (h : parse text = .ok f) :
    f.StandsIn text := by
  obtain ⟨vs, hlist, hfills⟩ | ⟨-, ms, hobject, hcollects, hrequired⟩ :=
    Json.Record.shape_of_parse lexical_fields h
  · obtain ⟨id, type, more, rfl, hid, htype, hpayload⟩ := exists_of_fills hfills
    exact .list id type more hlist hid htype hpayload
  · exact standsIn_of_collects hobject (hrequired _ (.tail _ (.head _)) rfl) hcollects

/-- The members of an object that is read as a frame: the id and the type are strings. -/
theorem writes_of_collects {s f : ObjectFrame} {ms : List (String × List Char)}
    (h : record.Collects s ms f) {m : String × List Char} (hm : m ∈ ms)
    (hname : m.1 = "type" ∨ m.1 = "id") : ∃ s, Writes s m.2 := by
  induction h with
  | done => cases hm
  | @field g s s' _ m' ms hfind hnew hreads hs ih =>
    rcases List.mem_cons.mp hm with rfl | hm
    · have hg : g.name = m.1 := by simpa using List.find?_some hfind
      rcases reads_cases (List.mem_of_find?_eq_some hfind) hreads with
        ⟨-, id, hid, -⟩ | ⟨-, type, htype, -⟩ | ⟨hpayload, -⟩
      · exact ⟨id, hid⟩
      · exact ⟨type, htype⟩
      · rw [← hg, hpayload] at hname
        exact absurd hname (by decide)
    · exact ih hm
  | @other s _ m' ms hfind hs ih =>
    rcases List.mem_cons.mp hm with rfl | hm
    · rcases hname with hname | hname <;> rw [hname] at hfind <;> cases hfind
    · exact ih hm

/-- What is read as a frame has one of the two shapes. -/
theorem shaped_of_parse {text : String} {f : ObjectFrame} (h : parse text = .ok f) :
    ObjectShaped text ∨ ListShaped text := by
  obtain ⟨vs, hlist, hfills⟩ | ⟨-, ms, hobject, hcollects, hrequired⟩ :=
    Json.Record.shape_of_parse lexical_fields h
  · obtain ⟨id, type, more, rfl, hid, htype, hpayload⟩ := exists_of_fills hfills
    have hmore : more.length ≤ 1 := by rcases hpayload with ⟨rfl, -⟩ | rfl <;> simp
    exact Or.inr ⟨id, type, more, hlist, hmore, ⟨_, hid⟩, _, htype⟩
  · have htype : "type" ∈ ms.map Prod.fst := hrequired _ (.tail _ (.head _)) rfl
    exact Or.inl ⟨ms, hobject, htype, fun m hm => writes_of_collects hcollects hm⟩

theorem parse_of_listShaped {text : String} (h : ListShaped text) : ∃ f, parse text = .ok f := by
  obtain ⟨id, type, more, hlist, hmore, ⟨i, hi⟩, t, ht⟩ := h
  have hid := hi.reads.map fun id => { ({ type := "" } : ObjectFrame) with id }
  have htype := ht.reads.map fun type => ({ id := i, type } : ObjectFrame)
  cases more with
  | nil => exact ⟨_, Json.Record.parse_of_list hlist (.next hid (.next htype (.done (by decide))))⟩
  | cons v more =>
    obtain rfl : more = [] := List.length_eq_zero_iff.mp (by simpa using hmore)
    have hraw : (⟨String.ofList v⟩ : Raw).IsJson := by
      obtain ⟨_, _, -, ⟨_, _, hvalues, -⟩, -⟩ := hlist
      rw [Raw.IsJson, String.toList_ofList]
      exact Json.spells_of_isList hvalues v (by simp)
    have hpayload := reads_payload hraw
    rw [String.toList_ofList] at hpayload
    have hread := hpayload.map fun payload => ({ id := i, type := t, payload } : ObjectFrame)
    exact ⟨_, Json.Record.parse_of_list hlist
      (.next hid (.next htype (.next hread (.done (by simp)))))⟩

end ObjectFrame

namespace ChannelFrame

theorem lexical_fields : ∀ f ∈ record.fields, ∀ s, Lexical (f.read s) := by
  intro f hf s
  simp only [record, List.mem_cons, List.not_mem_nil, or_false] at hf
  rcases hf with rfl | rfl | rfl | rfl | rfl
  · exact (Json.lexical_readString.optional).map fun joinRef => { s with joinRef }
  · exact (Json.lexical_readString.optional).map fun ref => { s with ref }
  · exact Json.lexical_readString.map fun topic => { s with topic }
  · exact Json.lexical_readString.map fun event => { s with event }
  · exact Json.lexical_raw.map fun payload => { s with payload }

/-- The text is a string, or `null` where there is none. -/
def MayWrite : Option String → List Char → Prop
  | none => (· = "null".toList)
  | some s => Writes s

theorem mayWrite_of_reads {s : Option String} {v : List Char}
    (h : Reads (Json.optional Json.readString) v s) : MayWrite s v := by
  obtain ⟨rfl, hv⟩ | ⟨x, rfl, hreads⟩ := Json.lexical_readString.reads_of_optional h
  · exact hv
  · exact Json.writes_of_reads hreads

/-- How a frame stands in a text: as a list of its five parts, the payload as it is. -/
inductive StandsIn (f : ChannelFrame) (text : String) : Prop where
  | list (joinRef ref topic event : List Char)
      (htext : Around (IsList [joinRef, ref, topic, event, f.payload.text.toList]) text)
      (hjoinRef : MayWrite f.joinRef joinRef) (href : MayWrite f.ref ref)
        (htopic : Writes f.topic topic)
      (hevent : Writes f.event event)

/-- What is read as a frame stands in the text. -/
theorem standsIn_of_parse {text : String} {f : ChannelFrame} (h : parse text = .ok f) :
    f.StandsIn text := by
  obtain ⟨vs, hlist, hfills⟩ | ⟨hkeyed, -⟩ := Json.Record.shape_of_parse lexical_fields h
  · obtain ⟨joinRef, vs, f₁, rfl, hreads₁, h₁⟩ := hfills.of_required rfl
    obtain ⟨ref, vs, f₂, rfl, hreads₂, h₂⟩ := h₁.of_required rfl
    obtain ⟨topic, vs, f₃, rfl, hreads₃, h₃⟩ := h₂.of_required rfl
    obtain ⟨event, vs, f₄, rfl, hreads₄, h₄⟩ := h₃.of_required rfl
    obtain ⟨payload, vs, f₅, rfl, hreads₅, h₅⟩ := h₄.of_required rfl
    obtain ⟨rfl, rfl⟩ := h₅.of_nil
    -- each field has put its part into the frame of those before it
    obtain ⟨_, hpayload, rfl⟩ :=
      Json.lexical_raw.reads_of_map (fun payload => ({ f₄ with payload } : ChannelFrame)) hreads₅
    obtain ⟨_, hevent, rfl⟩ :=
      Json.lexical_readString.reads_of_map (fun event => ({ f₃ with event } : ChannelFrame)) hreads₄
    obtain ⟨_, htopic, rfl⟩ :=
      Json.lexical_readString.reads_of_map (fun topic => ({ f₂ with topic } : ChannelFrame)) hreads₃
    obtain ⟨_, href, rfl⟩ :=
      (Json.lexical_readString.optional).reads_of_map (fun ref => ({ f₁ with ref } : ChannelFrame))
        hreads₂
    obtain ⟨_, hjoinRef, rfl⟩ := (Json.lexical_readString.optional).reads_of_map
      (fun joinRef => ({ joinRef, topic := "", event := "", payload := ⟨"null"⟩ } : ChannelFrame))
        hreads₁
    rw [Json.eq_of_reads_raw hpayload] at hlist
    exact .list joinRef ref topic event hlist (mayWrite_of_reads hjoinRef) (mayWrite_of_reads href)
      (Json.writes_of_reads htopic) (Json.writes_of_reads hevent)
  · cases hkeyed

end ChannelFrame

/-! ## Calls -/

/-- The connection leaves it to the protocol to call a text malformed. -/
def Transport.Impartial (τ : Type) [Transport τ] : Prop :=
  ∀ (t : τ) (frame : String) (p : Problem), (Transport.send t frame).1 ≠ .error (.malformed p)

/-- A socket leaves it to the protocol to call a text malformed. -/
theorem WebSocket.impartial : Transport.Impartial WebSocket := by
  have hemit : ∀ (ws : WebSocket) frame p, (ws.emit frame).1 ≠ .error (.malformed p) := by
    intro ws frame p
    rw [emit]
    split_ifs <;> simp [brokenPipe, timedOut]
  intro ws frame p
  show (ws.send frame).1 ≠ _
  rw [send]
  split
  · simp
  · simp [Breach.toError]
  · simp [Breach.toError]
  · split <;> rename_i ws' hout
    · have hframe := hemit ws (.text frame) p
      rwa [hout] at hframe
    · rw [flush]
      split
      · simp
      · exact hemit _ _ p

namespace Link

variable {τ : Type} [Transport τ]

/-- What becomes of a text on an object protocol. It is only taken if it has one of the two shapes.
If it is not an object of the right shape, then it is malformed and nothing is opened, unless it has
the other shape. -/
def RefusesUnshaped {α : Type} (l : Link τ) (text : String)
    (outcome : Except ProtocolError α × Link τ) : Prop :=
  ((∃ a, outcome.1 = .ok a) → ObjectShaped text ∨ ListShaped text) ∧
  (¬ObjectShaped text →
    ((∃ p, outcome.1 = .error (.malformed p) ∧ outcome.2.session = l.session) ↔ ¬ListShaped text))

theorem sendAll_ne_malformed (hsend : Transport.Impartial τ) (l : Link τ) (frames : List String)
    (p : Problem) : (l.sendAll frames).1 ≠ .error (.malformed p) := by
  induction frames generalizing l with
  | nil => simp [sendAll]
  | cons frame frames ih =>
    rw [sendAll]
    split <;> rename_i hframe
    · exact ih _
    · rw [← congrArg (·.1) hframe]
      exact hsend l.transport frame p

theorem settle_ne_malformed {α : Type} (hsend : Transport.Impartial τ) (l : Link τ)
    (reply : Session.Reply α) (p : Problem) : (l.settle reply).1 ≠ .error (.malformed p) := by
  have hframes := sendAll_ne_malformed hsend l reply.frames p
  rw [settle]
  split <;> rename_i hout
  · simp
  · rw [hout] at hframes
    simpa using hframes

theorem converse_ne_malformed {α : Type} (hsend : Transport.Impartial τ) {l : Link τ}
    {text : String} (htext : l.receive.1 = .ok text)
    {decode : Session → String → Except ProtocolError (Session.Reply α)}
    (hdecode : ∀ p, decode l.session text ≠ .error (.malformed p)) (p : Problem) :
    (l.converse decode).1 ≠ .error (.malformed p) := by
  cases hout : decode l.session text with
  | error e =>
    rw [converse_refused htext hout]
    exact fun he => hdecode p (hout.trans (congrArg Except.error (Except.error.inj he)))
  | ok reply =>
    rw [converse_ok htext hout]
    exact settle_ne_malformed hsend _ reply p

/-- A text is read and decoded; the decoder calls a text malformed exactly if it is no frame. -/
theorem refusesUnshaped_converse {α : Type} (hsend : Transport.Impartial τ) {l : Link τ}
    {text : String} (htext : l.receive.1 = .ok text)
    {decode : Session → String → Except ProtocolError (Session.Reply α)}
    (hdecode : ∀ p, decode l.session text = .error (.malformed p) ↔
      ObjectFrame.parse text = .error p) :
    l.RefusesUnshaped text (l.converse decode) := by
  cases hparse : ObjectFrame.parse text with
  | error p =>
    rw [converse_refused htext ((hdecode p).mpr hparse)]
    refine ⟨by simp, fun _ => ⟨fun _ hlist => ?_, fun _ => ⟨p, rfl, rfl⟩⟩⟩
    obtain ⟨f, hf⟩ := ObjectFrame.parse_of_listShaped hlist
    rw [hparse] at hf
    cases hf
  | ok f =>
    have hshaped := ObjectFrame.shaped_of_parse hparse
    refine ⟨fun _ => hshaped,
      fun hobject => ⟨?_, fun hlist => absurd hshaped (not_or_intro hobject hlist)⟩⟩
    rintro ⟨p, hmalformed, -⟩
    refine absurd hmalformed (converse_ne_malformed hsend htext ?_ p)
    intro p hp
    rw [hdecode, hparse] at hp
    cases hp

end Link

namespace Session

theorem handshake_eq_malformed_iff {s : Session} (hp : s.subprotocol ≠ .absinthe) (text : String)
    (p : Problem) :
    s.handshake text = .error (.malformed p) ↔ ObjectFrame.parse text = .error p := by
  rw [handshake_eq_objectHandshake hp, objectHandshake]
  cases ObjectFrame.parse text with
  | error p' => simp
  | ok f =>
    dsimp only
    split_ifs <;> simp

theorem message_eq_malformed_iff {s : Session} (hp : s.subprotocol ≠ .absinthe) (text : String)
    (p : Problem) : s.message text = .error (.malformed p) ↔ ObjectFrame.parse text = .error p := by
  rw [message_eq_objectMessage hp, objectMessage]
  cases ObjectFrame.parse text with
  | error p' => simp
  | ok f =>
    dsimp only
    split <;> simp

end Session

namespace Link

variable {τ : Type} [Transport τ]

/-- On an object protocol, the handshake and every read take only objects of the right shape and
lists of two strings and perhaps a value. Of the texts that are no such object, exactly the ones
that are no such list are malformed. -/
theorem malformed_unless_list (hsend : Transport.Impartial τ) {l : Link τ}
    (hp : l.session.subprotocol ≠ .absinthe) {text : String} (htext : l.receive.1 = .ok text) :
    (l.session.initialized = false → l.RefusesUnshaped text l.handshake) ∧
      (l.session.initialized = true → l.RefusesUnshaped text l.read) := by
  refine ⟨fun hinit => ?_, fun hinit => ?_⟩
  · rw [handshake, hinit, if_neg (by decide)]
    exact refusesUnshaped_converse hsend htext (Session.handshake_eq_malformed_iff hp text)
  · rw [read, if_pos hinit]
    exact refusesUnshaped_converse hsend htext (Session.message_eq_malformed_iff hp text)

/-- A conversation over a socket on which a text has come in. -/
def hearing (p : Subprotocol) (text : String) : Link WebSocket where
  session := { subprotocol := p, initialized := true }
  transport := { inbox := [.ofText text] }

/-- A list of one string has neither shape. -/
theorem malformed_unless_list_single :
    let text := " [\"start\"]"
    let l := hearing .legacy text
    (Transport.Impartial WebSocket ∧ l.session.subprotocol ≠ .absinthe ∧ l.receive.1 = .ok text ∧
      l.session.initialized = true) ∧ ¬ObjectShaped text ∧ ¬ListShaped text ∧
      ∃ p, l.read.1 = .error (.malformed p) ∧ l.read.2.session = l.session := by
  have htext : (hearing .legacy " [\"start\"]").receive.1 = .ok " [\"start\"]" := by decide +kernel
  have hobject : ¬ObjectShaped " [\"start\"]" := not_objectShaped_of_bracket (by decide +kernel)
  have hlist : ¬ListShaped " [\"start\"]" := by
    intro h
    obtain ⟨f, hf⟩ := ObjectFrame.parse_of_listShaped h
    have hfails : (ObjectFrame.parse " [\"start\"]").isOk = false := by decide +kernel
    rw [hf] at hfails
    cases hfails
  exact ⟨⟨WebSocket.impartial, by decide, htext, rfl⟩, hobject, hlist,
    (((malformed_unless_list WebSocket.impartial (by decide) htext).2 rfl).2 hobject).mpr hlist⟩

/-- The list of an id and a type is no object, and yet it opens the operation. -/
theorem list_opens_operation :
    let client : ScriptedTransport :=
  { inbox := ["\x7b\"type\":\"connection_init\"\x7d", "[\"1\",\"subscribe\"]"] }
    let l : Link ScriptedTransport :=
      { session := { subprotocol := .transport }, transport := client }
    ¬ObjectShaped "[\"1\",\"subscribe\"]" ∧ l.handshake.1 = .ok none ∧
      l.handshake.2.receive.1 = .ok "[\"1\",\"subscribe\"]" ∧
      l.handshake.2.read.1 = .ok ⟨"1", .subscribe, none⟩ ∧
        l.handshake.2.read.2.session.opened = ["1"] := by
  exact ⟨not_objectShaped_of_bracket
    (by decide +kernel), by decide +kernel, by decide +kernel, by decide +kernel, by decide +kernel⟩

end Link
end StreamGateway
