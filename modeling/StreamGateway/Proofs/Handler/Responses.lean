import StreamGateway.Proofs.Handler.Refusals
import StreamGateway.Proofs.Json.Unambiguous

/-! # How a response is sent

A response that can be sent goes out in one frame. It is sent as errors if it has errors that are a
list or an object, and whole as a result otherwise. What it has is a matter of its text
(`Response.Holds`). In an object, errors and extensions are the members of these names. But a list
of at most two items counts as a response as well, with the first item for its errors and the second
for its extensions; so a result that is a short list is sent as errors if its first item is a list
or an object. -/
namespace StreamGateway

open Json (Raw Around IsObject IsList Reads Lexical Spells)

namespace Response

/-! ## The parts of a response -/

theorem lexical_fields : ∀ f ∈ record.fields, ∀ s, Lexical (f.read s) := by
  intro f hf s
  simp only [record, List.mem_cons, List.not_mem_nil, or_false] at hf
  rcases hf with rfl | rfl
  · exact (Json.lexical_raw.optional).map fun errors => { s with errors }
  · exact (Json.lexical_raw.optional).map fun extensions => { s with extensions }

/-- What stands in a text for errors and for extensions: in an object the members of these names, in
a list of at most two items its items. -/
inductive Holds (text : String) : Option (List Char) → Option (List Char) → Prop where
  | object {ms : List (String × List Char)} (htext : Around (IsObject ms) text) :
    Holds text (ms.lookup "errors") (ms.lookup "extensions")
  | list {vs : List (List Char)} (htext : Around (IsList vs) text) (hshort : vs.length ≤ 2) :
      Holds text vs[0]? vs[1]?

/-- A text holds the two in one way. -/
theorem Holds.unique {text : String} {e e' x x' : Option (List Char)} (h : Holds text e x)
    (h' : Holds text e' x') : e = e' ∧ x = x' := by
  cases h with
  | object htext =>
    cases h' with
    | object htext' =>
      obtain rfl := Json.isObject_unique htext htext'
      exact ⟨rfl, rfl⟩
    | list htext' => exact absurd htext (Json.not_isObject_of_isList htext')
  | list htext =>
    cases h' with
    | object htext' => exact absurd htext' (Json.not_isObject_of_isList htext)
    | list htext' =>
      obtain rfl := Json.isList_unique htext htext'
      exact ⟨rfl, rfl⟩

theorem spells_of_lookup {ms : List (String × List Char)} {text : String}
    (htext : Around (IsObject ms) text) {key : String} : ∀ v ∈ ms.lookup key, Spells .value v := by
  intro v hv
  obtain ⟨_, _, -, ⟨_, _, hobject, -⟩, -⟩ := htext
  obtain ⟨before, after, rfl, -⟩ := List.lookup_eq_some_iff.mp hv
  exact Json.spells_of_isObject hobject (key, v) (by simp)

theorem spells_of_getElem? {vs : List (List Char)} {text : String} (htext : Around (IsList vs) text)
    {i : Nat} : ∀ v ∈ vs[i]?, Spells .value v := by
  intro v hv
  obtain ⟨_, _, -, ⟨_, _, hlist, -⟩, -⟩ := htext
  exact Json.spells_of_isList hlist v (List.mem_of_getElem? hv)

/-- The two are values. -/
theorem Holds.spells {text : String} {e x : Option (List Char)} (h : Holds text e x) :
    (∀ v ∈ e, Spells .value v) ∧ ∀ v ∈ x, Spells .value v := by
  cases h with
  | object htext => exact ⟨spells_of_lookup htext, spells_of_lookup htext⟩
  | list htext => exact ⟨spells_of_getElem? htext, spells_of_getElem? htext⟩

/-- A value that may be left out. Where `null` stands there is none. -/
def given : Option (List Char) → Option Raw
  | none => none
  | some v => if v = "null".toList then none else some ⟨String.ofList v⟩

theorem isJson_of_given {v : Option (List Char)} (hv : ∀ u ∈ v, Spells .value u) :
    ∀ raw ∈ given v, raw.IsJson ∧ raw.text ≠ "null" := by
  intro raw hraw
  cases v with
  | none => cases hraw
  | some u =>
    rw [given] at hraw
    split_ifs at hraw with hnull
    · cases hraw
    · cases hraw
      refine ⟨?_, fun htext => hnull ?_⟩
      · rw [Raw.IsJson, String.toList_ofList]
        exact hv u rfl
      · rw [← htext, String.toList_ofList]

theorem eq_given_of_reads {v : List Char} {a : Option Raw}
    (h : Reads (Json.optional Raw.read) v a) : a = given (some v) := by
  rw [given]
  split_ifs with hnull
  · exact Json.eq_none_of_reads_null (hnull ▸ h)
  · obtain ⟨rfl, hv⟩ | ⟨raw, rfl, hraw⟩ := Json.lexical_raw.reads_of_optional h
    · exact absurd hv hnull
    · rw [Json.eq_of_reads_raw hraw, String.ofList_toList]

theorem eq_of_reads_errors {s s' : Response} {v : List Char}
    (h : Reads (record.fields[0].read s) v s') : s' = { s with errors := given (some v) } := by
  obtain ⟨errors, hreads, rfl⟩ :=
    Json.lexical_raw.optional.reads_of_map (fun errors => ({ s with errors } : Response)) h
  rw [eq_given_of_reads hreads]

theorem eq_of_reads_extensions {s s' : Response} {v : List Char}
    (h : Reads (record.fields[1].read s) v s') : s' = { s with extensions := given (some v) } := by
  obtain ⟨extensions, hreads, rfl⟩ :=
    Json.lexical_raw.optional.reads_of_map (fun extensions => ({ s with extensions } : Response)) h
  rw [eq_given_of_reads hreads]

theorem eq_of_fills {r : Response} {vs : List (List Char)}
    (h : Json.Record.Fills record.fields {} vs r) :
    vs.length ≤ 2 ∧ r = ⟨given vs[0]?, given vs[1]?⟩ := by
  cases h with
  | done => exact ⟨by simp, rfl⟩
  | next hreads hs =>
    obtain rfl := eq_of_reads_errors hreads
    cases hs with
    | done => exact ⟨by simp, rfl⟩
    | next hreads hs =>
      obtain rfl := eq_of_reads_extensions hreads
      obtain ⟨rfl, rfl⟩ := hs.of_nil
      exact ⟨by simp, rfl⟩

/-- A part of a response that has a field of its own is what stands for its name. -/
theorem eq_given_of_collects {r : Response} {ms : List (String × List Char)}
    (h : record.Collects {} ms r) (part : Response → Option Raw) (hnone : part {} = none)
    {f : Json.Field Response} (hf : record.fields.find? (·.name = f.name) = some f)
    (hown : ∀ s v s', Reads (f.read s) v s' → part s' = given (some v))
    (hothers : ∀ g ∈ record.fields, g.name ≠ f.name → ∀ s v s', Reads (g.read s) v s' →
      part s' = part s) :
    part r = given (ms.lookup f.name) := by
  obtain ⟨hlookup, hkept⟩ | ⟨v, s, s', hlookup, hreads, hlast⟩ := h.lookup part hf hothers
  · rw [hkept, hnone, hlookup]
    rfl
  · rw [hlast, hown s v s' hreads, hlookup]

theorem eq_of_collects {r : Response} {ms : List (String × List Char)}
    (h : record.Collects {} ms r) :
    r = ⟨given (ms.lookup "errors"), given (ms.lookup "extensions")⟩ := by
  have herrors : r.errors = given (ms.lookup "errors") := by
    refine eq_given_of_collects h Response.errors rfl (f := record.fields[0]) rfl ?_ ?_
    · intro s v s' hreads
      rw [eq_of_reads_errors hreads]
    · intro g hg hname s v s' hreads
      simp only [record, List.mem_cons, List.not_mem_nil, or_false] at hg
      rcases hg with rfl | rfl
      · exact absurd rfl hname
      · rw [eq_of_reads_extensions hreads]
  have hextensions : r.extensions = given (ms.lookup "extensions") := by
    refine eq_given_of_collects h Response.extensions rfl (f := record.fields[1]) rfl ?_ ?_
    · intro s v s' hreads
      rw [eq_of_reads_extensions hreads]
    · intro g hg hname s v s' hreads
      simp only [record, List.mem_cons, List.not_mem_nil, or_false] at hg
      rcases hg with rfl | rfl
      · rw [eq_of_reads_errors hreads]
      · exact absurd rfl hname
  rw [← herrors, ← hextensions]

/-- What is read from a response is what its text holds. -/
theorem holds_of_parse {raw : Raw} {r : Response} (h : parse raw = .ok r) :
    ∃ e x, Holds raw.text e x ∧ r = ⟨given e, given x⟩ := by
  obtain ⟨vs, hlist, hfills⟩ | ⟨-, ms, hobject, hcollects, -⟩ :=
    Json.Record.shape_of_parse lexical_fields h
  · obtain ⟨hshort, hr⟩ := eq_of_fills hfills
    exact ⟨_, _, .list hlist hshort, hr⟩
  · exact ⟨_, _, .object hobject, eq_of_collects hcollects⟩

/-! ## Failed responses -/

/-- The text of a list or an object. -/
def Bracketed (v : List Char) : Prop := ∃ b : Json.Bracket, v.head? = some b.opening

theorem isContainer_iff {raw : Raw} : isContainer raw = true ↔ Bracketed raw.text.toList := by
  rw [isContainer]
  split <;> rename_i h
  · exact ⟨fun _ => ⟨.list, by rw [h]; rfl⟩, fun _ => rfl⟩
  · exact ⟨fun _ => ⟨.object, by rw [h]; rfl⟩, fun _ => rfl⟩
  · rename_i hlist
    constructor
    · intro hfalse
      cases hfalse
    rintro ⟨b, hb⟩
    obtain ⟨cs, hcs⟩ := List.head?_eq_some_iff.mp hb
    cases b with
    | list => exact absurd hcs (hlist cs)
    | object => exact absurd hcs (h cs)

/-- The text of a response holds errors that are a list or an object, and these extensions. -/
def Failed (text : String) (errors : Raw) (extensions : Option Raw) : Prop :=
  ∃ x, Holds text (some errors.text.toList) x ∧ Bracketed errors.text.toList ∧ extensions = given x

theorem ne_null_of_bracketed {v : List Char} (h : Bracketed v) : v ≠ "null".toList := by
  rintro rfl
  obtain ⟨b, hb⟩ := h
  cases b <;> cases hb

/-- What is sent as errors is what the text has failed with. -/
theorem failures?_eq_some_iff {raw : Raw} {r : Response} (h : parse raw = .ok r) {errors : Raw} :
    r.failures? = some errors ↔ Failed raw.text errors r.extensions := by
  obtain ⟨e, x, hholds, rfl⟩ := holds_of_parse h
  rw [failures?, Option.filter_eq_some_iff, isContainer_iff]
  constructor
  · rintro ⟨hgiven, hbracketed⟩
    cases e with
    | none => cases hgiven
    | some v =>
      have hv : v = errors.text.toList := by
        simp only [given] at hgiven
        split_ifs at hgiven
        · cases hgiven
          rw [String.toList_ofList]
      rw [hv] at hholds
      exact ⟨x, hholds, hbracketed, rfl⟩
  · rintro ⟨x', hholds', hbracketed, -⟩
    obtain ⟨rfl, -⟩ := hholds.unique hholds'
    refine ⟨?_, hbracketed⟩
    rw [given, if_neg (ne_null_of_bracketed hbracketed), String.ofList_toList]

/-- The extensions of a failed response are those of its text. -/
theorem Failed.extensions_eq {raw : Raw} {r : Response} (h : parse raw = .ok r) {errors : Raw}
    {extensions : Option Raw} (hfailed : Failed raw.text errors extensions) :
    extensions = r.extensions := by
  obtain ⟨e, x, hholds, rfl⟩ := holds_of_parse h
  obtain ⟨x', hholds', -, rfl⟩ := hfailed
  rw [(hholds.unique hholds').2]

theorem Failed.isJson {text : String} {errors : Raw} {extensions : Option Raw}
    (h : Failed text errors extensions) :
    (errors.IsJson ∧ errors.text ≠ "null") ∧ ∀ raw ∈ extensions, raw.IsJson ∧
      raw.text ≠ "null" := by
  obtain ⟨x, hholds, hbracketed, rfl⟩ := h
  refine ⟨⟨hholds.spells.1 _ rfl, fun hnull => ?_⟩, isJson_of_given hholds.spells.2⟩
  exact ne_null_of_bracketed hbracketed (by rw [hnull])

/-- A response is not `null`. -/
theorem ne_null_of_parse {raw : Raw} {r : Response} (h : parse raw = .ok r) :
    raw.text ≠ "null" := by
  intro hnull
  have hnone : (parse ⟨"null"⟩).toOption = none := by decide +kernel
  rw [← hnull, h] at hnone
  cases hnone

/-- Errors and extensions that were written as a payload are read back. -/
theorem parse_ofErrors {errors : Raw} {extensions : Option Raw}
    (herrors : errors.IsJson ∧ errors.text ≠ "null")
    (hextensions : ∀ raw ∈ extensions, raw.IsJson ∧ raw.text ≠ "null") :
    parse (Payload.ofErrors errors extensions) = .ok ⟨some errors, extensions⟩ := by
  have hheard {raw : Raw} (hraw : raw.IsJson ∧ raw.text ≠ "null") :
      Reads (Json.optional Raw.read) raw.text.toList (some raw) := by
    have hreads := ObjectFrame.reads_payload hraw.1
    rwa [ObjectFrame.heard, if_neg hraw.2] at hreads
  have hfirst := (hheard herrors).map fun errors => ({ errors } : Response)
  cases extensions with
  | none =>
    show record.parse {} (Payload.objectOf [("errors", errors.text)]).text = _
    rw [Payload.objectOf_eq]
    have htakes : record.TakesMembers [] {} [("errors", errors.text.toList)] ["errors"]
        ⟨some errors, none⟩ :=
      .cons rfl (by simp) hfirst (.nil _ _)
    exact record.parse_ofList (record.read_object rfl htakes rfl)
  | some raw =>
    show record.parse {} (Payload.objectOf [("errors", errors.text),
      ("extensions", raw.text)]).text = _
    rw [Payload.objectOf_eq]
    have hsecond := (hheard (hextensions raw rfl)).map
      fun extensions => ({ errors := some errors, extensions } : Response)
    have htakes : record.TakesMembers [] {} [("errors", errors.text.toList),
        ("extensions", raw.text.toList)]
        ["extensions", "errors"] ⟨some errors, some raw⟩ :=
      .cons rfl (by simp) hfirst (.cons rfl (by simp) hsecond (.nil _ _))
    exact record.parse_ofList (record.read_object rfl htakes rfl)

end Response

/-! ## Frames -/

namespace Session

/-- The frame that reports errors of an operation. One object protocol has a type of its own for it
and no room for extensions. The other has errors and extensions in the payload of a result. On a
channel it is the failed answer to the operation's document, with the values of both. -/
inductive ReportsErrors (s : Session) (id : String) (errors : Raw) (extensions : Option Raw)
    (frame : String) :
    Prop where
  | transport (hp : s.subprotocol = .transport)
      (hframe : ObjectFrame.parse frame = .ok { id, type := "error", payload := some errors })
  | legacy (hp : s.subprotocol = .legacy) {payload : Raw}
      (hframe : ObjectFrame.parse frame = .ok { id, type := "data", payload := some payload })
      (hpayload : Response.parse payload = .ok ⟨some errors, extensions⟩)
  | absinthe (hp : s.subprotocol = .absinthe) {origin : Origin}
      (horigin : s.origin? id = some origin)
      {value : Json} (hvalue : Reported errors extensions value) {response : Raw}
      (hframe : ChannelFrame.Answers frame origin "error" response)
        (hresponse : response.Shows value)

/-- The frame that carries a result of an operation as it is written. -/
inductive CarriesResult (s : Session) (id : String) (result : Raw) (frame : String) : Prop where
  | object (hp : s.subprotocol ≠ .absinthe)
      (hframe : ObjectFrame.parse frame =
        .ok { id, type := s.subprotocol.resultType, payload := some result })
  | channel (hp : s.subprotocol = .absinthe) {payload : Raw}
      (hframe : ChannelFrame.parse frame =
        .ok { topic := id, event := "subscription:data", payload })
      (hpayload : ChannelResult.parse payload.text = .ok { result, subscriptionId := id })

theorem heard_of_ne_null {raw : Raw} (h : raw.text ≠ "null") :
    ObjectFrame.heard (some raw) = some raw := by
  rw [ObjectFrame.heard, if_neg h]

theorem reportsErrors_of_frame {s : Session} {id : String} {errors : Raw} {extensions : Option Raw}
    (herrors : errors.IsJson ∧ errors.text ≠ "null")
    (hextensions : ∀ raw ∈ extensions, raw.IsJson ∧ raw.text ≠ "null") {frame : String}
    (h : s.errorsFrame id errors extensions = .ok frame) :
    s.ReportsErrors id errors extensions frame := by
  have hopen := isOpen_iff.mpr (errorsFrame_ok h).1
  rw [errorsFrame, hopen, if_neg (by decide)] at h
  cases hp : s.subprotocol with
  | transport =>
    rw [hp] at h
    cases h
    refine .transport hp ?_
    rw [ObjectFrame.parse_render (by simpa using herrors.1), heard_of_ne_null herrors.2]
  | legacy =>
    rw [hp] at h
    cases h
    have hpayload := Response.parse_ofErrors herrors hextensions
    have hjson : (Payload.ofErrors errors extensions).IsJson := by
      apply Payload.objectOf_isJson
      cases extensions with
      | none => simpa using herrors.1
      | some raw => simpa using ⟨herrors.1, (hextensions raw rfl).1⟩
    refine .legacy hp ?_ hpayload
    rw [ObjectFrame.parse_render (by simpa using hjson),
      heard_of_ne_null (Response.ne_null_of_parse hpayload)]
  | absinthe =>
    rw [hp] at h
    dsimp only at h
    split at h
    · cases h
    · rename_i origin horigin
      cases hresponse : errorsResponse errors extensions with
      | error f =>
        rw [hresponse] at h
        cases h
      | ok response =>
        rw [hresponse] at h
        cases h
        have hvalue := errorsResponse_eq_ok_iff.mp hresponse
        exact .absinthe hp horigin hvalue
          (ChannelFrame.answers_channelReply origin "error" response)
          (Json.shows_render hvalue.tidy)

theorem carriesResult_of_frame {s : Session} {id : String} {result : Raw} (hjson : result.IsJson)
    (hnull : result.text ≠ "null") {frame : String} (h : s.dataFrame id result none = .ok frame) :
    s.CarriesResult id result frame := by
  have hopen := (dataFrame_ok h).1
  by_cases hp : s.subprotocol = .absinthe
  · rw [channelDataFrame hp hopen] at h
    cases h
    refine .channel hp ?_ (ChannelResult.parse_payload hjson)
    rw [hp]
    exact ChannelFrame.parse_render (ChannelResult.payload_isJson hjson)
  · rw [objectDataFrame hp hopen] at h
    cases h
    refine .object hp ?_
    rw [ObjectFrame.parse_render (by simpa using hjson), heard_of_ne_null hnull]

end Session

/-! ## Sending -/

namespace Link

variable {τ : Type} [Transport τ] {log : τ → List String}

/-- A result that could be sent has gone out in its frame. -/
theorem writeData_ok (hlog : Transport.Logs log) {l : Link τ} {id : String} {data : Raw}
    {extensions : Option Raw} (h : (l.writeData id data extensions).1 = .ok ()) :
    ∃ frame, l.session.dataFrame id data extensions = .ok frame ∧
      log (l.writeData id data extensions).2.transport = log l.transport ++ [frame] := by
  rw [writeData] at h ⊢
  cases hframe : l.session.dataFrame id data extensions with
  | error e =>
    rw [hframe] at h
    cases h
  | ok frame =>
    rw [hframe] at h
    exact ⟨frame, rfl, hlog.sent l.transport frame h⟩

/-- Errors that could be sent have gone out in their frame. -/
theorem writeErrors_ok (hlog : Transport.Logs log) {l : Link τ} {id : String} {errors : Raw}
    {extensions : Option Raw} (h : (l.writeErrors id errors extensions).1 = .ok ()) :
    ∃ frame, l.session.errorsFrame id errors extensions = .ok frame ∧
      log (l.writeErrors id errors extensions).2.transport = log l.transport ++ [frame] := by
  obtain ⟨frame, hframe, hsend⟩ := writeErrors_ok_iff.mp h
  refine ⟨frame, hframe, ?_⟩
  rw [writeErrors_of_frame hframe]
  exact hlog.sent l.transport frame hsend

end Link

namespace Handler

variable {τ : Type} [Transport τ] {log : τ → List String}

theorem eq_ok_of_mapError {α ε ε' : Type} {x : Except ε α} {f : ε → ε'} {a : α}
    (h : x.mapError f = .ok a) : x = .ok a := by
  cases x with
  | error e => cases h
  | ok b =>
    cases h
    rfl

/-- **How a response is sent**: if the engine can send a response through a sink, exactly one frame
goes out, for every response whatever and on every protocol. It reports the errors and the
extensions that the response holds, if its text is an object whose errors are a list or an object,
or a list of at most two items that begins with a list or an object. Otherwise it carries the
response whole, as it is written. So a response that is no list is sent as errors exactly if it is
an object whose `errors` are a list or an object. -/
theorem response_sent (hlog : Transport.Logs log) (h : Handler τ) (sink : Sink) {response : Raw}
    (hjson : response.IsJson) (hok : (sink.next h response).1 = .ok ()) :
    (∃ frame, log (sink.next h response).2.link.transport = log h.link.transport ++ [frame] ∧
      ((∃ errors extensions, Response.Failed response.text errors extensions ∧
          h.link.session.ReportsErrors sink.operationId errors extensions frame) ∨
        (∀ errors extensions, ¬Response.Failed response.text errors extensions) ∧
          h.link.session.CarriesResult sink.operationId response frame)) ∧
    ((∀ vs, ¬Around (IsList vs) response.text) →
      ((∃ errors extensions, Response.Failed response.text errors extensions) ↔
        ∃ ms errors, Around (IsObject ms) response.text ∧ ms.lookup "errors" = some errors ∧
          Response.Bracketed errors)) := by
  constructor
  · rw [Sink.next, respond] at hok ⊢
    cases hparse : Response.parse response with
    | error p =>
      rw [hparse] at hok
      cases hok
    | ok shape =>
      rw [hparse] at hok
      dsimp only at hok ⊢
      cases hfailures : shape.failures? with
      | some errors =>
        rw [hfailures] at hok
        have hfailed := (Response.failures?_eq_some_iff hparse).mp hfailures
        obtain ⟨frame, hframe, hsent⟩ := Link.writeErrors_ok hlog (eq_ok_of_mapError hok)
        have hreports := Session.reportsErrors_of_frame hfailed.isJson.1 hfailed.isJson.2 hframe
        exact ⟨frame, hsent, Or.inl ⟨errors, shape.extensions, hfailed, hreports⟩⟩
      | none =>
        rw [hfailures] at hok
        obtain ⟨frame, hframe, hsent⟩ := Link.writeData_ok hlog (eq_ok_of_mapError hok)
        have hcarries := Session.carriesResult_of_frame hjson
          (Response.ne_null_of_parse hparse) hframe
        refine ⟨frame, hsent, Or.inr ⟨fun errors extensions hfailed => ?_, hcarries⟩⟩
        rw [hfailed.extensions_eq hparse, ← Response.failures?_eq_some_iff hparse,
          hfailures] at hfailed
        cases hfailed
  · intro hlist
    constructor
    · rintro ⟨errors, extensions, x, hholds, hbracketed, -⟩
      generalize herrors : some errors.text.toList = e at hholds
      cases hholds with
      | object htext => exact ⟨_, _, htext, herrors.symm, hbracketed⟩
      | list htext => exact absurd htext (hlist _)
    · rintro ⟨ms, errors, htext, herrors, hbracketed⟩
      have hholds := Response.Holds.object htext
      rw [herrors, ← String.toList_ofList (l := errors)] at hholds
      rw [← String.toList_ofList (l := errors)] at hbracketed
      exact ⟨⟨String.ofList errors⟩, _, _, hholds, hbracketed, rfl⟩

/-- The sink of the subscription that the engine is asked to start. -/
def hopefulSink : Sink := ⟨"1", ⟨1, 1⟩⟩

theorem response_sent_hopeful :
    let response : Raw := ⟨"\x7b \"extensions\":null,\"error\\u0073\":[ 1 ],\"data\":\x7b\x7d\x7d"⟩
    (hopefulSink.next hopeful.handler response).1 = .ok () ∧
      (∃ frame, ScriptedTransport.log (hopefulSink.next hopeful.handler response).2.link.transport =
          ScriptedTransport.log hopeful.handler.link.transport ++ [frame] ∧
        ((∃ errors extensions, Response.Failed response.text errors extensions ∧
            hopeful.handler.link.session.ReportsErrors "1" errors extensions frame) ∨
          (∀ errors extensions, ¬Response.Failed response.text errors extensions) ∧
            hopeful.handler.link.session.CarriesResult "1" response frame)) ∧
      ((∃ errors extensions, Response.Failed response.text errors extensions) ↔
        ∃ ms errors, Around (IsObject ms) response.text ∧ ms.lookup "errors" = some errors ∧
          Response.Bracketed errors) := by
  intro response
  have hok : (hopefulSink.next hopeful.handler response).1 = .ok () := by decide +kernel
  have hlist : ∀ vs, ¬Around (IsList vs) response.text := by
    intro vs hvs
    exact absurd (Json.head_of_isList hvs) (by decide +kernel)
  obtain ⟨hframe, hiff⟩ :=
    response_sent ScriptedTransport.logs hopeful.handler hopefulSink (by decide +kernel) hok
  exact ⟨hok, hframe, hiff hlist⟩

/-- A response that is no object has no errors. But if it is a list of one list, that one goes out
as its errors, and the response itself does not. -/
theorem short_list_sent_as_errors :
    let response : Raw := ⟨"[[\x7b\"message\":\"x\"\x7d]]"⟩
    (∀ ms, ¬Around (IsObject ms) response.text) ∧
      (hopefulSink.next hopeful.handler response).1 = .ok () ∧
      ScriptedTransport.log (hopefulSink.next hopeful.handler response).2.link.transport =
        ScriptedTransport.log hopeful.handler.link.transport ++
          ["\x7b\"id\":\"1\",\"type\":\"error\",\"payload\":[\x7b\"message\":\"x\"\x7d]\x7d"] := by
  intro response
  refine ⟨?_, by decide +kernel, by decide +kernel⟩
  intro ms hms
  exact absurd (Json.head_of_isObject hms) (by decide +kernel)

end Handler
end StreamGateway
