import StreamGateway.Protocol.Link
import StreamGateway.WebSocket.Upgrade

/-! # How a subprotocol is agreed on

A client may spread the names it offers over as many headers as it likes, with stray commas and
blanks: what counts is the sequence of the items between commas. The first item that is a supported
name, apart from blanks around it, is chosen, and a conversation of that name can always be begun
(`Subprotocol.offers_decide`). -/
namespace StreamGateway

/-! ## Pieces and blanks -/

namespace Text

theorem pieces_eq_splitOn (sep : Char) (cs : List Char) : pieces sep cs = cs.splitOn sep := by
  induction cs with
  | nil => rfl
  | cons c cs ih =>
    rw [pieces, List.splitOn_cons_eq_if_modifyHead, ih]
    by_cases hc : c = sep
    · simp [hc]
    · rw [if_neg hc, if_neg (by simpa using hc)]
      cases hpieces : cs.splitOn sep with
      | nil => exact absurd hpieces (List.splitOn_ne_nil sep cs)
      | cons p ps => rfl

theorem sep_notMem_pieces {sep : Char} {cs p : List Char} (h : p ∈ pieces sep cs) : sep ∉ p := by
  induction cs generalizing p with
  | nil =>
    cases List.mem_singleton.mp h
    exact List.not_mem_nil
  | cons c cs ih =>
    rw [pieces] at h
    by_cases hc : c = sep
    · rw [if_pos hc] at h
      rcases List.mem_cons.mp h with rfl | h
      · exact List.not_mem_nil
      · exact ih h
    · rw [if_neg hc] at h
      split at h <;> rename_i hpieces
      · cases List.mem_singleton.mp h
        simpa using Ne.symm hc
      · rename_i q qs
        rw [hpieces] at ih
        rcases List.mem_cons.mp h with rfl | h
        · intro hsep
          rcases List.mem_cons.mp hsep with heq | hsep
          · exact hc heq.symm
          · exact ih List.mem_cons_self hsep
        · exact ih (List.mem_cons_of_mem q h)

/-- Taking texts apart one by one is the same as taking apart what they give when put together. -/
theorem pieces_intercalate (sep : Char) (v : List Char) (vs : List (List Char)) :
    pieces sep ([sep].intercalate (v :: vs)) = (v :: vs).flatMap (pieces sep) := by
  induction vs generalizing v with
  | nil => simp
  | cons w vs ih =>
    rw [List.intercalate_cons_cons, List.append_assoc, List.singleton_append,
      List.flatMap_cons, ← ih w, pieces_eq_splitOn, List.splitOn_append_cons_self,
      ← pieces_eq_splitOn, ← pieces_eq_splitOn]

/-- The pieces of a text are the only way to make it of texts without the separator. -/
theorem pieces_eq_iff {sep : Char} {cs : List Char} {ps : List (List Char)} :
    pieces sep cs = ps ↔ cs = [sep].intercalate ps ∧ ps ≠ [] ∧ ∀ p ∈ ps, sep ∉ p := by
  constructor
  · rintro rfl
    refine ⟨?_, ?_, fun p hp => sep_notMem_pieces hp⟩
    · rw [pieces_eq_splitOn, List.intercalate_splitOn]
    · rw [pieces_eq_splitOn]
      exact List.splitOn_ne_nil sep cs
  · rintro ⟨rfl, hsome, hnone⟩
    rw [pieces_eq_splitOn]
    exact List.splitOn_intercalate sep hnone hsome

/-- What is left of a text without the blanks around it. -/
theorem trim_eq_iff {s t : String} (hfirst : ∀ c ∈ t.toList.head?, isBlank c = false)
    (hlast : ∀ c ∈ t.toList.getLast?, isBlank c = false) :
    trim s = t ↔ ∃ before after : List Char, (∀ c ∈ before, isBlank c = true) ∧
      (∀ c ∈ after, isBlank c = true) ∧ s.toList = before ++ t.toList ++ after := by
  -- what does not begin with a blank is not cut
  have hkept {cs : List Char} (h : ∀ c ∈ cs.head?, isBlank c = false) :
      cs.dropWhile isBlank = cs := by
    cases cs with
    | nil => rfl
    | cons c cs => exact List.dropWhile_cons_of_neg (by simp [h c rfl])
  have hblank (cs : List Char) : ∀ c ∈ cs.takeWhile isBlank, isBlank c = true :=
    List.all_eq_true.mp List.all_takeWhile
  rw [trim, ← String.toList_inj, String.toList_ofList]
  constructor
  · intro h
    let middle := s.toList.dropWhile isBlank
    refine ⟨s.toList.takeWhile isBlank, (middle.reverse.takeWhile isBlank).reverse,
      hblank _, ?_, ?_⟩
    · intro c hc
      exact hblank _ c (List.mem_reverse.mp hc)
    · rw [← h, List.append_assoc, ← List.reverse_append, List.takeWhile_append_dropWhile,
        List.reverse_reverse, List.takeWhile_append_dropWhile]
  · rintro ⟨before, after, hbefore, hafter, hs⟩
    rw [hs, List.append_assoc, List.dropWhile_append_of_pos hbefore]
    by_cases hempty : t.toList = []
    · rw [hempty, List.nil_append, ← List.append_nil after, List.dropWhile_append_of_pos hafter]
      rfl
    · have hfront : (t.toList ++ after).dropWhile isBlank = t.toList ++ after := by
        apply hkept
        rwa [List.head?_append, List.head?_eq_some_head hempty, Option.some_or,
          ← List.head?_eq_some_head]
      have hback : t.toList.reverse.dropWhile isBlank = t.toList.reverse := by
        apply hkept
        rwa [List.head?_reverse]
      have hafter' : ∀ c ∈ after.reverse, isBlank c = true :=
        fun c hc => hafter c (List.mem_reverse.mp hc)
      rw [hfront, List.reverse_append, List.dropWhile_append_of_pos hafter', hback,
        List.reverse_reverse]

end Text

namespace Subprotocol

theorem named?_eq_some_iff {s : String} {p : Subprotocol} : named? s = some p ↔ s = p.name := by
  constructor
  · intro h
    have hname := List.find?_some h
    exact (of_decide_eq_true hname).symm
  · rintro rfl
    cases p <;> decide

theorem named?_eq_none_iff {s : String} : named? s = none ↔ ∀ p : Subprotocol, s ≠ p.name := by
  rw [Option.eq_none_iff_forall_ne_some]
  exact forall_congr' fun p => not_congr named?_eq_some_iff

/-- The item is the name of the conversation, perhaps between blanks. -/
def IsOffer (p : Subprotocol) (item : String) : Prop :=
  ∃ before after : List Char, (∀ c ∈ before, Text.isBlank c = true) ∧
    (∀ c ∈ after, Text.isBlank c = true) ∧
    item.toList = before ++ p.name.toList ++ after

theorem isOffer_iff {p : Subprotocol} {item : String} :
    p.IsOffer item ↔ Text.trim item = p.name := by
  have hname : p.name.toList.head?.any Text.isBlank = false ∧
      p.name.toList.getLast?.any Text.isBlank = false := by
    cases p <;> decide
  refine (Text.trim_eq_iff (fun c hc => ?_) fun c hc => ?_).symm
  · rw [← hname.1, Option.mem_def.mp hc, Option.any_some]
  · rw [← hname.2, Option.mem_def.mp hc, Option.any_some]

/-! ## Choosing -/

/-- The first of two lists of offers goes first. -/
theorem select_append (xs ys : List String) : select (xs ++ ys) = (select xs).or (select ys) := by
  rw [select, offered, List.flatMap_append, List.findSome?_append]
  rfl

/-- It does not matter how the names are spread over headers. -/
theorem select_joined (values : List String) : select values = select [",".intercalate values] := by
  cases values with
  | nil => decide
  | cons v vs =>
    have hpieces := Text.pieces_intercalate ',' v.toList (vs.map String.toList)
    have hjoined : offered [",".intercalate (v :: vs)] = offered (v :: vs) := by
      rw [offered, List.flatMap_singleton, String.toList_intercalate]
      show (Text.pieces ',' ([','].intercalate ((v :: vs).map String.toList))).map _ = _
      rw [List.map_cons, hpieces, ← List.map_cons, List.flatMap_map, List.map_flatMap]
      rfl
    rw [select, select, hjoined]

/-- The items of a header are the only texts without commas that give it when put together with
commas. -/
theorem items_eq_iff {text : String} {items : List String} :
    (Text.pieces ',' text.toList).map String.ofList = items ↔
      text = ",".intercalate items ∧ items ≠ [] ∧ ∀ x ∈ items, ',' ∉ x.toList := by
  have hmap : (Text.pieces ',' text.toList).map String.ofList = items ↔
      Text.pieces ',' text.toList = items.map String.toList := by
    constructor
    · rintro rfl
      rw [List.map_map]
      exact (List.map_id _).symm.trans (List.map_congr_left fun _ _ => String.toList_ofList.symm)
    · intro h
      rw [h, List.map_map]
      exact (List.map_congr_left fun _ _ => String.ofList_toList).trans (List.map_id _)
  rw [hmap, Text.pieces_eq_iff, ← String.toList_inj, String.toList_intercalate]
  simp [List.map_eq_nil_iff]

/-- What is chosen from one header. -/
theorem select_single_iff {text : String} {p : Subprotocol} :
    select [text] = some p ↔ ∃ before item after,
      text = ",".intercalate (before ++ item :: after) ∧
        (∀ x ∈ before ++ item :: after, ',' ∉ x.toList) ∧ p.IsOffer item ∧
        ∀ x ∈ before, ∀ q : Subprotocol, ¬q.IsOffer x := by
  have hselect : select [text] =
      ((Text.pieces ',' text.toList).map String.ofList).findSome? fun item =>
        named? (Text.trim item) := by
    rw [select, offered, List.flatMap_singleton, List.findSome?_map, List.findSome?_map]
    rfl
  rw [hselect, List.findSome?_eq_some_iff]
  constructor
  · rintro ⟨before, item, after, hitems, hitem, hbefore⟩
    obtain ⟨htext, -, hcomma⟩ := items_eq_iff.mp hitems
    refine ⟨before, item, after, htext, hcomma, isOffer_iff.mpr (named?_eq_some_iff.mp hitem), ?_⟩
    intro x hx q hq
    exact named?_eq_none_iff.mp (hbefore x hx) q (isOffer_iff.mp hq)
  · rintro ⟨before, item, after, htext, hcomma, hitem, hbefore⟩
    have hitems := items_eq_iff.mpr ⟨htext, by simp, hcomma⟩
    refine ⟨before, item, after, hitems, named?_eq_some_iff.mpr (isOffer_iff.mp hitem), ?_⟩
    intro x hx
    exact named?_eq_none_iff.mpr fun q hq => hbefore x hx q (isOffer_iff.mpr hq)

/-- A conversation that was chosen can be begun, under the name it was chosen by. -/
theorem ofName_name {τ : Type} [Transport τ] (p : Subprotocol) (transport : τ) :
    Link.ofName p.name transport = .ok { session := { subprotocol := p }, transport } := by
  cases p <;> rfl

/-- A request that breaks no rule is accepted with the conversation that its headers decide on. -/
theorem reply_eq_accepted_iff {head : RequestHead} {p : Subprotocol} :
    head.reply = .accepted p ↔ head.breach? = none ∧
      select ((head.values "sec-websocket-protocol").filterMap RequestHead.visible?) = some p := by
  rw [RequestHead.reply]
  cases head.breach? with
  | some rule => simp
  | none =>
    cases select ((head.values "sec-websocket-protocol").filterMap RequestHead.visible?) <;> simp

/-- What is offered decides, not how it is spread over headers: the values of several headers count
as one value, with commas between them; of two lists of values the first goes first; what is chosen
is the first item between commas that is the name of a conversation, apart from blanks around it. An
upgrade agrees on exactly that, and the conversation can then be begun and goes by the same name. -/
theorem offers_decide :
    (∀ values, select values = select [",".intercalate values]) ∧
      (∀ xs ys, select (xs ++ ys) = (select xs).or (select ys)) ∧
      (∀ values p, select values = some p ↔ ∃ before item after,
        ",".intercalate values = ",".intercalate (before ++ item :: after) ∧
          (∀ x ∈ before ++ item :: after, ',' ∉ x.toList) ∧ p.IsOffer item ∧
          ∀ x ∈ before, ∀ q : Subprotocol, ¬q.IsOffer x) ∧
      (∀ (head : RequestHead) p, head.reply = .accepted p ↔ head.breach? = none ∧
        select ((head.values "sec-websocket-protocol").filterMap RequestHead.visible?) = some p) ∧
      ∀ {τ : Type} [Transport τ] (p : Subprotocol) (transport : τ), ∃ l : Link τ,
        Link.ofName p.name transport = .ok l ∧ l.session.subprotocol.name = p.name := by
  refine ⟨select_joined, select_append, ?_, fun _ _ => reply_eq_accepted_iff, ?_⟩
  · intro values p
    rw [select_joined values]
    exact select_single_iff
  · intro τ _ p transport
    exact ⟨_, ofName_name p transport, rfl⟩

example : select ["mqtt , ,", "", ", \u2003graphql-ws\t,absinthe"] = some .legacy := by
  decide +kernel

end Subprotocol
end StreamGateway
