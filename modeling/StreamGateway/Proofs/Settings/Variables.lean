import Mathlib.Data.Nat.Digits.Defs
import StreamGateway.Proofs.Text.Decoding
import StreamGateway.Settings.Load

/-! # What variables ask for

Eleven variables of the environment ask for something, each with words or numbers of its own.
`Variable.Means` says what: the names, the words and the largest numbers are written down there once
more, and the value of a number is that of its digits, so nothing of it rests on how a text is read.
Reading finds exactly what is meant (`Setting.ofText?_eq_some_iff`). -/
namespace StreamGateway

/-! ## Numbers -/

namespace Number

/-- The text is the number in decimal digits, perhaps with zeros or a plus sign before it. -/
def Writes (text : String) (n : Nat) : Prop :=
  ∃ digits : List Nat, digits ≠ [] ∧ (∀ d ∈ digits, d < 10) ∧
    Nat.ofDigits 10 digits.reverse = n ∧
    (text.toList = digits.map Nat.digitChar ∨ text.toList = '+' :: digits.map Nat.digitChar)

theorem digit?_eq_some_iff {c : Char} {d : Nat} : digit? c = some d ↔ d < 10 ∧ c = d.digitChar := by
  constructor
  · intro h
    unfold digit? at h
    split at h <;> rename_i hrange
    · cases h
      have hlow : 48 ≤ c.toNat := hrange.1
      have hhigh : c.toNat ≤ 57 := hrange.2
      have hdigits : ∀ d < 10, Char.ofNat (d + 48) = d.digitChar := by decide
      have hd : c.toNat - 48 < 10 := by omega
      have hc := hdigits _ hd
      rw [Nat.sub_add_cancel hlow, Char.ofNat_toNat] at hc
      exact ⟨hd, hc⟩
    · cases h
  · rintro ⟨hd, rfl⟩
    have hdigits : ∀ d < 10, digit? d.digitChar = some d := by decide
    exact hdigits d hd

/-- Digits are read one by one, and make up the number that they write. -/
theorem digitsAfter_eq_some_iff {m n : Nat} {cs : List Char} :
    digitsAfter m cs = some n ↔ ∃ digits : List Nat, (∀ d ∈ digits, d < 10) ∧
      cs = digits.map Nat.digitChar ∧
      m * 10 ^ digits.length + Nat.ofDigits 10 digits.reverse = n := by
  induction cs generalizing m with
  | nil =>
    constructor
    · intro h
      cases h
      exact ⟨[], by simp⟩
    · rintro ⟨digits, -, hcs, rfl⟩
      obtain rfl := List.map_eq_nil_iff.mp hcs.symm
      simp [digitsAfter]
  | cons c cs ih =>
    -- the first digit counts so many tens as there are digits behind it
    have hcons (d : Nat) (digits : List Nat) :
        m * 10 ^ (d :: digits).length + Nat.ofDigits 10 (d :: digits).reverse =
          (m * 10 + d) * 10 ^ digits.length + Nat.ofDigits 10 digits.reverse := by
      rw [List.reverse_cons, Nat.ofDigits_append, Nat.ofDigits_singleton, List.length_reverse,
        List.length_cons, pow_succ]
      ring
    rw [digitsAfter, Option.bind_eq_bind, Option.bind_eq_some_iff]
    constructor
    · rintro ⟨d, hfirst, hrest⟩
      obtain ⟨hd, rfl⟩ := digit?_eq_some_iff.mp hfirst
      obtain ⟨digits, hdigits, rfl, rfl⟩ := ih.mp hrest
      exact ⟨d :: digits, List.forall_mem_cons.mpr ⟨hd, hdigits⟩, rfl, hcons d digits⟩
    · rintro ⟨digits, hdigits, hcs, rfl⟩
      cases digits with
      | nil => cases hcs
      | cons d digits =>
        obtain ⟨rfl, rfl⟩ := List.cons_eq_cons.mp hcs
        obtain ⟨hd, hdigits⟩ := List.forall_mem_cons.mp hdigits
        exact ⟨d, digit?_eq_some_iff.mpr ⟨hd, rfl⟩,
          ih.mpr ⟨digits, hdigits, rfl, (hcons d digits).symm⟩⟩

theorem natural?_eq_some_iff {cs : List Char} {n : Nat} :
    natural? cs = some n ↔ (∃ digits : List Nat, digits ≠ [] ∧ (∀ d ∈ digits, d < 10) ∧
      Nat.ofDigits 10 digits.reverse = n ∧ cs = digits.map Nat.digitChar) ∧ n ≤ largest := by
  unfold natural?
  split <;> rename_i hempty
  · obtain rfl := List.isEmpty_iff.mp hempty
    constructor
    · intro h
      cases h
    · rintro ⟨⟨digits, hsome, -, -, hcs⟩, -⟩
      exact absurd (List.map_eq_nil_iff.mp hcs.symm) hsome
  · rw [Option.filter_eq_some_iff, decide_eq_true_eq, digitsAfter_eq_some_iff]
    refine and_congr_left fun _ => exists_congr fun digits => ?_
    rw [Nat.zero_mul, Nat.zero_add]
    constructor
    · rintro ⟨hdigits, rfl, hvalue⟩
      exact ⟨fun hnil => hempty (by rw [hnil]; rfl), hdigits, hvalue, rfl⟩
    · rintro ⟨-, hdigits, hvalue, hcs⟩
      exact ⟨hdigits, hcs, hvalue⟩

/-- A number is read from a text exactly if the text writes it and it has no more than sixty-four
bits. -/
theorem unsigned?_eq_some_iff {text : String} {n : Nat} :
    unsigned? text = some n ↔ Writes text n ∧ n ≤ largest := by
  have hplus (digits : List Nat) (hdigits : ∀ d ∈ digits, d < 10) (cs : List Char) :
      digits.map Nat.digitChar ≠ '+' :: cs := by
    intro h
    have hdigit : ∀ d < 10, Nat.digitChar d ≠ '+' := by decide
    obtain ⟨d, hd, hchar⟩ :=
      List.mem_map.mp (h ▸ List.mem_cons_self : '+' ∈ digits.map Nat.digitChar)
    exact hdigit d (hdigits d hd) hchar
  unfold unsigned? Writes
  split <;> rename_i htext
  · rw [natural?_eq_some_iff, htext]
    refine and_congr_left fun _ => exists_congr fun digits => ?_
    constructor
    · rintro ⟨hsome, hdigits, hvalue, rfl⟩
      exact ⟨hsome, hdigits, hvalue, .inr rfl⟩
    · rintro ⟨hsome, hdigits, hvalue, hcs | hcs⟩
      · exact absurd hcs.symm (hplus digits hdigits _)
      · exact ⟨hsome, hdigits, hvalue, (List.cons_eq_cons.mp hcs).2⟩
  · rw [natural?_eq_some_iff]
    refine and_congr_left fun _ => exists_congr fun digits => ?_
    constructor
    · rintro ⟨hsome, hdigits, hvalue, hcs⟩
      exact ⟨hsome, hdigits, hvalue, .inl hcs⟩
    · rintro ⟨hsome, hdigits, hvalue, hcs | hcs⟩
      · exact ⟨hsome, hdigits, hvalue, hcs⟩
      · exact absurd hcs (htext _)

theorem within?_eq_some_iff {least most : Nat} (hmost : most ≤ largest) {text : String} {n : Nat} :
    within? least most text = some n ↔ Writes text n ∧ least ≤ n ∧ n ≤ most := by
  rw [within?, Option.filter_eq_some_iff, unsigned?_eq_some_iff, Bool.and_eq_true,
    decide_eq_true_eq, decide_eq_true_eq]
  constructor
  · rintro ⟨⟨hwrites, -⟩, hrange⟩
    exact ⟨hwrites, hrange⟩
  · rintro ⟨hwrites, hrange⟩
    exact ⟨⟨hwrites, hrange.2.trans hmost⟩, hrange⟩

end Number

/-! ## Meanings -/

namespace Variable

/-- What a variable can ask for. -/
inductive Demand where
  | flag (on : Bool)
  | backend (b : Backend)
  | number (n : UInt64)
deriving DecidableEq

def flagWords : Bool → List String
  | true => ["true", "1", "yes", "on"]
  | false => ["false", "0", "no", "off"]

def backendWords : Backend → List String
  | .auto => ["auto"]
  | .epoll => ["epoll"]
  | .pollList => ["polllist", "poll-list", "poll"]

/-- The variables with numbers, and the largest number that each may ask for. -/
def ceilings : List (String × Nat) :=
  [("GATE_WS_POLL_TIMEOUT_MS", 60000), ("GATE_WS_CONNECTION_BUFFER_SIZE", 1000000),
    ("GATE_WS_MAX_EVENTS_PER_WAIT", 65536), ("GATE_WS_MAX_CONCURRENT_RESOLVERS", 65536),
    ("GATE_WS_HANDSHAKE_TIMEOUT_MS", 600000), ("GATE_WS_READ_TIMEOUT_MS", 600000),
    ("GATE_WS_WRITE_TIMEOUT_MS", 600000), ("GATE_WS_MAX_MESSAGE_SIZE", 1073741824)]

/-- What the text of a variable asks for. Words may be in small or capital letters, and a number is
positive and not too large. -/
inductive Means : String → String → Demand → Prop where
  | flag {name text : String} {on : Bool} (hname : name ∈ ["GATE_WS_ENABLED", "GATE_WS_POLLER"])
    (hword : text.toLower ∈ flagWords on) : Means name text (.flag on)
  | backend {name text : String} {b : Backend} (hname : name = "GATE_WS_BACKEND")
    (hword : text.toLower ∈ backendWords b) : Means name text (.backend b)
  | number {name text : String} {most : Nat} {n : UInt64} (hname : (name, most) ∈ ceilings)
    (hwrites : Number.Writes text n.toNat) (hleast : 1 ≤ n.toNat) (hmost : n.toNat ≤ most) :
    Means name text (.number n)

end Variable

/-! ## Readings -/

theorem Text.lower_eq_toLower (s : String) : Text.lower s = s.toLower := by
  apply String.toList_inj.mp
  rw [Text.lower, String.toList_ofList]
  exact (String.toList_map ..).symm

theorem Switch.parse?_eq_some_iff {text : String} {on : Bool} :
    Switch.parse? text = some on ↔ text.toLower ∈ Variable.flagWords on := by
  unfold Switch.parse?
  rw [Text.lower_eq_toLower]
  cases on <;> split <;> simp_all [Variable.flagWords]

theorem Backend.parse?_eq_some_iff {text : String} {b : Backend} :
    Backend.parse? text = some b ↔ text.toLower ∈ Variable.backendWords b := by
  unfold Backend.parse?
  rw [Text.lower_eq_toLower]
  cases b <;> split <;> simp_all [Variable.backendWords]

namespace Setting

/-- What a setting can be set to. -/
abbrev Value : Setting → Type
  | .switch _ => Bool
  | .backend => Backend
  | .limit _ => UInt64

instance : (s : Setting) → DecidableEq s.Value
  | .switch _ => inferInstanceAs (DecidableEq Bool)
  | .backend => inferInstanceAs (DecidableEq Backend)
  | .limit _ => inferInstanceAs (DecidableEq UInt64)

/-- What the text of a variable is read as. -/
def ofText? : (s : Setting) → String → Option s.Value
  | .switch _, text => Switch.parse? text
  | .backend, text => Backend.parse? text
  | .limit l, text => (Number.within? 1 l.most text).map UInt64.ofNat

/-- The demand for a value. -/
def demand : (s : Setting) → s.Value → Variable.Demand
  | .switch _, on => .flag on
  | .backend, b => .backend b
  | .limit _, n => .number n

end Setting

theorem Limit.most_le_largest (l : Limit) : l.most ≤ Number.largest := by
  cases l <;> decide

theorem Limit.mem_ceilings_iff {l : Limit} {most : Nat} :
    (l.envName, most) ∈ Variable.ceilings ↔ most = l.most := by
  cases l <;> simp [Variable.ceilings, Limit.envName, Limit.most]

/-- A number in a limit's range is read as a word of sixty-four bits. -/
theorem Limit.ofText?_eq_some_iff {l : Limit} {text : String} {n : UInt64} :
    (Setting.limit l).ofText? text = some n ↔
      Number.Writes text n.toNat ∧ 1 ≤ n.toNat ∧ n.toNat ≤ l.most := by
  rw [← Number.within?_eq_some_iff l.most_le_largest, Setting.ofText?, Option.map_eq_some_iff]
  constructor
  · rintro ⟨m, hm, rfl⟩
    obtain ⟨-, -, hmost⟩ := (Number.within?_eq_some_iff l.most_le_largest).mp hm
    have hfits : m < 2 ^ 64 := Nat.lt_of_le_of_lt (hmost.trans l.most_le_largest) (by decide)
    rw [hm, UInt64.toNat_ofNat', Nat.mod_eq_of_lt hfits]
  · intro hn
    exact ⟨n.toNat, hn, UInt64.ofNat_toNat⟩

/-- **Reading finds what is meant**, for every setting and every text. -/
theorem Setting.ofText?_eq_some_iff (s : Setting) {text : String} {x : s.Value} :
    s.ofText? text = some x ↔ Variable.Means s.envName text (s.demand x) := by
  cases s with
  | switch s =>
    have hname : s.envName ∈ ["GATE_WS_ENABLED", "GATE_WS_POLLER"] := by cases s <;> decide
    refine Switch.parse?_eq_some_iff.trans ⟨fun hword => .flag hname hword, fun h => ?_⟩
    cases h with
    | flag _ hword => exact hword
  | backend =>
    refine Backend.parse?_eq_some_iff.trans ⟨fun hword => .backend rfl hword, fun h => ?_⟩
    cases h with
    | backend _ hword => exact hword
  | limit l =>
    refine Limit.ofText?_eq_some_iff.trans ⟨?_, fun h => ?_⟩
    · rintro ⟨hwrites, hleast, hmost⟩
      exact .number (Limit.mem_ceilings_iff.mpr rfl) hwrites hleast hmost
    · cases h with
      | number hname hwrites hleast hmost =>
        rw [Limit.mem_ceilings_iff.mp hname] at hmost
        exact ⟨hwrites, hleast, hmost⟩

/-! ## Environments -/

/-- The variables as the system holds them. -/
abbrev RawEnvironment := String → Option (List UInt8)

/-- The variables that hold text. -/
def RawEnvironment.texts (raw : RawEnvironment) : Environment :=
  fun name => (raw name).bind fun bytes => (Text.Utf8.decode bytes).toOption

/-- A variable is set, holds text, and this asks for something. -/
def RawEnvironment.Asks (raw : RawEnvironment) (name : String) (demand : Variable.Demand) : Prop :=
  ∃ text, raw name = some (Text.Utf8.encode text) ∧ Variable.Means name text demand

theorem RawEnvironment.texts_eq_some_iff {raw : RawEnvironment} {name text : String} :
    raw.texts name = some text ↔ raw name = some (Text.Utf8.encode text) := by
  rw [texts, Option.bind_eq_some_iff]
  constructor
  · rintro ⟨bytes, hraw, hdecode⟩
    cases hok : Text.Utf8.decode bytes with
    | error f =>
      rw [hok] at hdecode
      cases hdecode
    | ok s =>
      rw [hok] at hdecode
      cases hdecode
      rw [hraw, Text.Utf8.decode_eq_ok_iff.mp hok]
  · intro hraw
    exact ⟨_, hraw, by rw [Text.Utf8.decode_encode]; rfl⟩

namespace Setting

/-- What a setting's variable is read as, if it is set and holds text. -/
def asked? (s : Setting) (raw : RawEnvironment) : Option s.Value :=
  (raw.texts s.envName).bind s.ofText?

theorem asked?_eq_some_iff (s : Setting) {raw : RawEnvironment} {x : s.Value} :
    s.asked? raw = some x ↔ raw.Asks s.envName (s.demand x) := by
  rw [asked?, Option.bind_eq_some_iff]
  exact exists_congr fun text => and_congr RawEnvironment.texts_eq_some_iff s.ofText?_eq_some_iff

end Setting
end StreamGateway
