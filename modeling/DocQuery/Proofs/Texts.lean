import DocQuery.Proofs.Floats
import DocQuery.Proofs.Merge
import DocQuery.Value.Text

/-!
# Texts that tell values apart

The text of a value in which host values are marked determines the value, if the value is legible:
no range has a range as an end, nothing in a pattern looks like the end of a pattern, and all host
values come from one heap, so that their identity says what they are. Without these conditions
different values may have the same text.
-/

namespace DocQuery

/-- What the identities of host values stand for: their contents and fields. -/
abbrev Heap := Nat → Host × Option Entries

instance : Inhabited Host := ⟨.symbol ""⟩

/-- Whether the value is a range. -/
def Value.isRange : Value → Bool
  | range _ _ _ => true
  | _ => false

/-- The value is one that can be read back from its text. -/
inductive Value.Legible (heap : Heap) : Value → Prop
  | null : Legible heap .null
  | missing : Legible heap .missing
  | bool (b : Bool) : Legible heap (.bool b)
  | int (n : Int64) : Legible heap (.int n)
  | float (x : Float) : Legible heap (.float x)
  | string (s : String) : Legible heap (.string s)
  | array {items : List Value} (h : ∀ v ∈ items, Legible heap v) : Legible heap (.array items)
  | map {entries : Entries} (h : ∀ e ∈ entries, Legible heap e.2) : Legible heap (.map entries)
  | regex {p : Pattern} (h : p.Closed) : Legible heap (.regex p)
  | range {start stop : Option Value} (exclusive : Bool) (hstart : ∀ v ∈ start, Legible heap v)
      (hstop : ∀ v ∈ stop, Legible heap v) (hstart' : ∀ v ∈ start, v.isRange = false)
      (hstop' : ∀ v ∈ stop, v.isRange = false) : Legible heap (.range start stop exclusive)
  | host (identity : Nat) : Legible heap (.host identity (heap identity).1 (heap identity).2)

theorem Value.Legible.items {heap : Heap} {items : List Value} (h : (Value.array items).Legible heap) :
  ∀ v ∈ items, v.Legible heap
  := by
  cases h with
  | array h => exact h

theorem Value.Legible.entries {heap : Heap} {entries : Entries}
    (h : (Value.map entries).Legible heap) :
  ∀ e ∈ entries, e.2.Legible heap
  := by
  cases h with
  | map h => exact h

/-! ### Characters of a text -/

/-- The characters of the text of a value. -/
def Value.chars (v : Value) : List Char := v.uniqueText.toList

/-- The texts of a list behind its first text, up to the bracket that closes it. -/
def following (closing : Char) : List (List Char) → List Char
  | [] => [closing]
  | cs :: rest => ',' :: ' ' :: (cs ++ following closing rest)

/-- The texts of a list up to the bracket that closes it. -/
def listed (closing : Char) : List (List Char) → List Char
  | [] => [closing]
  | cs :: rest => cs ++ following closing rest

theorem toList_listText (opening closing : Char) (texts : List String) :
  (Value.listText (String.singleton opening) (String.singleton closing) texts).toList
    = opening :: listed closing (texts.map String.toList)
  := by
  have hjoin : ∀ (t : String) (rest : List String),
      (String.intercalate ", " (t :: rest)).toList ++ [closing]
        = t.toList ++ following closing (rest.map String.toList) := by
    intro t rest
    induction rest generalizing t with
    | nil => simp [following]
    | cons u rest ih =>
      rw [String.intercalate_cons_cons, String.toList_append, String.toList_append,
        List.append_assoc, ih u]
      simp [following]
  unfold Value.listText
  cases texts with
  | nil => simp [listed]
  | cons t rest =>
    rw [String.toList_append, String.toList_append, List.append_assoc]
    simp only [String.toList_singleton, List.singleton_append, List.map_cons, listed]
    rw [hjoin]

theorem itemTexts_eq (mark : Nat → String) (items : List Value) :
  Value.itemTexts mark items = items.map (Value.textWith mark)
  := by
  induction items with
  | nil => rfl
  | cons v rest ih => rw [Value.itemTexts, ih, List.map_cons]

theorem entryTexts_eq (mark : Nat → String) (entries : Entries) :
  Value.entryTexts mark entries
    = entries.map fun e => Text.quote e.1 ++ ": " ++ e.2.textWith mark
  := by
  induction entries with
  | nil => rfl
  | cons e rest ih => rw [Value.entryTexts, ih, List.map_cons]

namespace Value

theorem chars_array (items : List Value) :
  (array items).chars = '[' :: listed ']' (items.map chars)
  := by
  change (listText "[" "]" (itemTexts identityMark items)).toList = _
  rw [itemTexts_eq]
  apply (toList_listText '[' ']' _).trans
  rw [List.map_map]
  rfl

/-- The characters of an entry of a map. -/
def entryChars (e : String × Value) : List Char := (Text.quote e.1).toList ++ ':' :: ' ' :: e.2.chars

theorem chars_map (entries : Entries) :
  (map entries).chars = '\x7b' :: listed '\x7d' (entries.map entryChars)
  := by
  change (listText "\x7b" "\x7d" (entryTexts identityMark entries)).toList = _
  rw [entryTexts_eq]
  apply (toList_listText '\x7b' '\x7d' _).trans
  rw [List.map_map]
  have hentry : String.toList ∘ (fun e : String × Value =>
      Text.quote e.1 ++ ": " ++ e.2.textWith identityMark) = entryChars := by
    funext e
    simp [entryChars, chars, uniqueText]
  rw [hentry]

/-- The characters of an end of a range. -/
def endChars (v : Option Value) : List Char := (v.map chars).getD []

/-- The dots between the ends of a range. -/
def dots (exclusive : Bool) : List Char := if exclusive then ['.', '.'] else ['.', '.', '=']

theorem chars_range (start stop : Option Value) (exclusive : Bool) :
  (range start stop exclusive).chars = endChars start ++ (dots exclusive ++ endChars stop)
  := by
  have hend : ∀ v, (endText identityMark v).toList = endChars v := by
    intro v
    cases v <;> rfl
  change (endText identityMark start ++ (if exclusive then ".." else "..=")
    ++ endText identityMark stop).toList = _
  rw [String.toList_append, String.toList_append, hend, hend, List.append_assoc]
  cases exclusive <;> rfl

theorem chars_host (identity : Nat) (content : Host) (fields : Option Entries) :
  (host identity content fields).chars
    = '#' :: '<' :: (content.typeName.toList ++ ' ' :: (content.text.toList
      ++ ' ' :: '@' :: (decimalDigits identity ++ ['>'])))
  := by
  change ("#<" ++ content.typeName ++ " " ++ content.text ++ (" @" ++ toString identity) ++ ">").toList
    = _
  simp [decimalDigits]

end Value

/-! ### First characters -/

/-- What the first character of a text tells of the value. -/
inductive Lead
  | null
  | missing
  | bool
  | number
  | string
  | array
  | map
  | regex
  | host
  | other
deriving DecidableEq

/-- What a first character tells. -/
def leadOf (c : Char) : Lead :=
  if c.isDigit then .number
  else match c with
    | 'n' => .null
    | '<' => .missing
    | 't' => .bool
    | 'f' => .bool
    | '-' => .number
    | 'i' => .number
    | 'N' => .number
    | '"' => .string
    | '[' => .array
    | '\x7b' => .map
    | '/' => .regex
    | '#' => .host
    | _ => .other

/-- What the first character of a value tells, unless it is a range. -/
def Value.lead : Value → Lead
  | null => .null
  | missing => .missing
  | bool _ => .bool
  | int _ => .number
  | float _ => .number
  | string _ => .string
  | array _ => .array
  | map _ => .map
  | regex _ => .regex
  | host _ _ _ => .host
  | range _ _ _ => .other

theorem leadOf_of_isDigit {c : Char} (h : c.isDigit) :
  leadOf c = .number
  := by
  unfold leadOf
  rw [if_pos h]

theorem exists_signedDigits (n : Int) :
  ∃ c rest, signedDigits n = c :: rest ∧ leadOf c = .number
  := by
  cases h : signedDigits n with
  | nil => exact absurd h (signedDigits_ne_nil n)
  | cons c rest =>
    refine ⟨c, rest, rfl, ?_⟩
    obtain rfl | hc := mem_signedDigits (h ▸ List.mem_cons_self)
    · rfl
    · apply leadOf_of_isDigit hc

theorem exists_floatText (x : Float) :
  ∃ c rest, (floatText x).toList = c :: rest ∧ leadOf c = .number
  := by
  have hsign : ∀ {p : FloatParts} {c : Char} {rest : List Char}, leadOf c = .number →
      ∃ d rest', p.sign ++ c :: rest = d :: rest' ∧ leadOf d = .number := by
    intro p c rest hc
    unfold FloatParts.sign
    split
    · exact ⟨'-', c :: rest, rfl, rfl⟩
    · exact ⟨c, rest, rfl, hc⟩
  obtain ⟨-, -, hx⟩ | ⟨-, -, hx⟩ | ⟨n, hn, hx, -⟩ := floatText_cases x <;> rw [hx]
  · exact ⟨_, _, rfl, rfl⟩
  · apply hsign rfl
  · obtain ⟨c, rest, hchars, hc⟩ := hn.head
    rw [hchars]
    apply hsign (leadOf_of_isDigit hc)

namespace Value

/-- The first character of the text of a value tells what it should. -/
theorem exists_chars {v : Value} (hv : v.isRange = false) :
  ∃ c rest, v.chars = c :: rest ∧ leadOf c = v.lead ∧ v.lead ≠ .other
  := by
  cases v with
  | null => exact ⟨_, _, rfl, rfl, by decide⟩
  | missing => exact ⟨_, _, rfl, rfl, by decide⟩
  | bool b => cases b <;> exact ⟨_, _, rfl, rfl, by simp [lead]⟩
  | int n =>
    obtain ⟨c, rest, h, hc⟩ := exists_signedDigits n.toInt
    exact ⟨c, rest, (toList_toString_int64 n).trans h, hc, by simp [lead]⟩
  | float x =>
    obtain ⟨c, rest, h, hc⟩ := exists_floatText x
    exact ⟨c, rest, h, hc, by simp [lead]⟩
  | string s => exact ⟨_, _, Text.toList_quote s, rfl, by simp [lead]⟩
  | array items => exact ⟨_, _, chars_array items, rfl, by simp [lead]⟩
  | map entries => exact ⟨_, _, chars_map entries, rfl, by simp [lead]⟩
  | regex p => exact ⟨_, _, p.toList_render, rfl, by simp [lead]⟩
  | host identity content fields =>
    exact ⟨_, _, chars_host identity content fields, rfl, by simp [lead]⟩
  | range => cases hv

/-- Values whose texts begin alike are of the same kind. -/
theorem lead_eq {v w : Value} (hv : v.isRange = false) (hw : w.isRange = false)
    {us vs : List Char} (h : v.chars ++ us = w.chars ++ vs) :
  v.lead = w.lead
  := by
  obtain ⟨c, rest, hc, hlead, -⟩ := exists_chars hv
  obtain ⟨d, rest', hd, hlead', -⟩ := exists_chars hw
  rw [hc, hd] at h
  rw [← hlead, ← hlead', (List.cons.inj h).1]

/-- The text of a value does not begin with what tells nothing. -/
theorem chars_append_ne {v : Value} (hv : v.isRange = false) {c : Char} (hc : leadOf c = .other)
    (us vs : List Char) :
  v.chars ++ us ≠ c :: vs
  := by
  intro h
  obtain ⟨d, rest, hd, hlead, hne⟩ := exists_chars hv
  rw [hd] at h
  rw [(List.cons.inj h).1] at hlead
  apply hne (hlead.symm.trans hc)

end Value

theorem leadOf_of_isCloser {c : Char} (h : isCloser c) :
  leadOf c = .other
  := by
  simp only [isCloser, Bool.or_eq_true, beq_iff_eq] at h
  obtain (rfl | rfl) | rfl := h <;> rfl

/-! ### Lists -/

section

variable {α : Type} {f : α → List Char} {closing : Char} {xs ys : List α} {us vs : List Char}

theorem closes_following (hclosing : isCloser closing) (texts : List (List Char)) (us : List Char) :
  Closes (following closing texts ++ us)
  := by
  cases texts with
  | nil => exact hclosing
  | cons cs rest => exact rfl

/-- What follows the first text of a list determines the rest of the list, if the texts of the items
determine them. -/
theorem following_append_inj (hclosing : isCloser closing) (hne : closing ≠ ',')
    (h : ∀ x ∈ xs, ∀ y ∈ ys, ∀ us vs, Closes us → Closes vs → f x ++ us = f y ++ vs →
      x = y ∧ us = vs)
    (heq : following closing (xs.map f) ++ us = following closing (ys.map f) ++ vs) :
  xs = ys ∧ us = vs
  := by
  induction xs generalizing ys with
  | nil =>
    cases ys with
    | nil => exact ⟨rfl, (List.cons.inj heq).2⟩
    | cons y ys => exact absurd (List.cons.inj heq).1 hne
  | cons x xs ih =>
    cases ys with
    | nil => exact absurd (List.cons.inj heq).1.symm hne
    | cons y ys =>
      simp only [List.map_cons, following, List.cons_append, List.append_assoc] at heq
      have htexts := (List.cons.inj (List.cons.inj heq).2).2
      obtain ⟨rfl, hrest⟩ := h x List.mem_cons_self y List.mem_cons_self _ _
        (closes_following hclosing _ us) (closes_following hclosing _ vs) htexts
      have htail : ∀ x ∈ xs, ∀ y ∈ ys, ∀ us vs, Closes us → Closes vs → f x ++ us = f y ++ vs →
          x = y ∧ us = vs :=
        fun x hx y hy => h x (List.mem_cons_of_mem _ hx) y (List.mem_cons_of_mem _ hy)
      obtain ⟨rfl, rfl⟩ := ih htail hrest
      exact ⟨rfl, rfl⟩

/-- The texts of a list determine the list, if the texts of the items determine them and do not begin
with the bracket that closes the list. -/
theorem listed_append_inj (hclosing : isCloser closing) (hne : closing ≠ ',')
    (h : ∀ x ∈ xs, ∀ y ∈ ys, ∀ us vs, Closes us → Closes vs → f x ++ us = f y ++ vs →
      x = y ∧ us = vs)
    (hhead : ∀ x us vs, x ∈ xs ∨ x ∈ ys → f x ++ us ≠ closing :: vs)
    (heq : listed closing (xs.map f) ++ us = listed closing (ys.map f) ++ vs) :
  xs = ys ∧ us = vs
  := by
  cases xs with
  | nil =>
    cases ys with
    | nil => exact ⟨rfl, (List.cons.inj heq).2⟩
    | cons y ys =>
      simp only [List.map_cons, listed, List.append_assoc] at heq
      exact absurd heq.symm (hhead y _ _ (.inr List.mem_cons_self))
  | cons x xs =>
    cases ys with
    | nil =>
      simp only [List.map_cons, listed, List.append_assoc] at heq
      exact absurd heq (hhead x _ _ (.inl List.mem_cons_self))
    | cons y ys =>
      simp only [List.map_cons, listed, List.append_assoc] at heq
      obtain ⟨rfl, hrest⟩ := h x List.mem_cons_self y List.mem_cons_self _ _
        (closes_following hclosing _ us) (closes_following hclosing _ vs) heq
      have htail : ∀ x ∈ xs, ∀ y ∈ ys, ∀ us vs, Closes us → Closes vs → f x ++ us = f y ++ vs →
          x = y ∧ us = vs :=
        fun x hx y hy => h x (List.mem_cons_of_mem _ hx) y (List.mem_cons_of_mem _ hy)
      obtain ⟨rfl, rfl⟩ := following_append_inj hclosing hne htail hrest
      exact ⟨rfl, rfl⟩

end

/-! ### Host values -/

theorem at_notMem_padded (width n : Nat) :
  '@' ∉ padded width n
  := by
  intro h
  obtain h | h := List.mem_append.mp h
  · exact absurd (List.eq_of_mem_replicate h) (by decide)
  · exact absurd (isDigit_of_mem_decimalDigits h) (by decide)

theorem at_notMem_dateText (d : Date) :
  '@' ∉ d.text
  := by
  have hyear : '@' ∉ yearText d.year := by
    unfold yearText
    split
    · apply at_notMem_padded
    · rw [List.mem_cons, not_or]
      refine ⟨?_, at_notMem_padded _ _⟩
      split <;> decide
  simp [Date.text, hyear, at_notMem_padded]

theorem at_notMem_fullText (t : DateTime) :
  '@' ∉ t.fullText
  := by
  have hfraction : ∀ n, '@' ∉ fractionText n := by
    intro n
    unfold fractionText
    split
    · simp
    · split
      · simp [at_notMem_padded]
      · split <;> simp [at_notMem_padded]
  simp [DateTime.fullText, TimeOfDay.fullText, TimeOfDay.text, at_notMem_dateText, at_notMem_padded,
    hfraction]

theorem at_notMem_signedDigits (n : Int) :
  '@' ∉ signedDigits n
  := by
  intro h
  obtain h | h := mem_signedDigits h
  · exact absurd h (by decide)
  · exact absurd h (by decide)

theorem at_notMem_floatText (x : Float) :
  '@' ∉ (floatText x).toList
  := fun h => absurd (isNumberChar_of_mem_floatText h) (by decide)

/-- A host value that is no symbol has no mark in its text. -/
theorem Host.at_notMem_text {content : Host} (h : ∀ name, content ≠ .symbol name) :
  '@' ∉ content.typeName.toList ++ ' ' :: content.text.toList
  := by
  cases content with
  | symbol name => exact absurd rfl (h name)
  | point x y => simp [typeName, text, toList_toString_int64, at_notMem_signedDigits]
  | celsius degrees => simp [typeName, text, at_notMem_floatText]
  | instant time => simp [typeName, text, at_notMem_fullText]
  | localTime time => simp [typeName, text, at_notMem_fullText]
  | date day => simp [typeName, text, at_notMem_dateText]
  | object number =>
    have hnumber := at_notMem_signedDigits number
    rw [← toList_toString_int] at hnumber
    simpa [typeName, text] using hnumber

/-- The mark of a host value and what follows it are determined by the characters. -/
theorem mark_append_inj {i j : Nat} {us vs : List Char}
    (h : decimalDigits i ++ '>' :: us = decimalDigits j ++ '>' :: vs) :
  i = j ∧ us = vs
  := by
  have hangle : ∀ n, '>' ∉ decimalDigits n :=
    fun n h => absurd (isDigit_of_mem_decimalDigits h) (by decide)
  obtain ⟨hdigits, rfl⟩ := append_cons_inj (hangle i) (hangle j) h
  exact ⟨decimalDigits_injective hdigits, rfl⟩

namespace Value

/-- The identity of a host value and what follows its text are determined by the characters. -/
theorem host_append_inj {i j : Nat} {content content' : Host} {fields fields' : Option Entries}
    {us vs : List Char}
    (h : (host i content fields).chars ++ us = (host j content' fields').chars ++ vs) :
  i = j ∧ us = vs
  := by
  rw [chars_host, chars_host] at h
  simp only [List.cons_append, List.append_assoc, List.nil_append] at h
  have htexts := (List.cons.inj (List.cons.inj h).2).2
  have hother : ∀ {content : Host}, (∀ name, content ≠ .symbol name) → ∀ cs ds,
      content.typeName.toList ++ cs ≠ "symbol".toList ++ ds := by
    intro content hcontent cs ds heq
    cases content with
    | symbol name => exact hcontent name rfl
    | _ => simp [Host.typeName] at heq
  by_cases hsymbol : ∃ name, content = .symbol name
  · obtain ⟨name, rfl⟩ := hsymbol
    by_cases hsymbol' : ∃ name, content' = .symbol name
    · obtain ⟨name', rfl⟩ := hsymbol'
      simp only [Host.typeName, Host.text, String.toList_append, List.append_assoc] at htexts
      have hquoted := List.append_cancel_left (List.cons.inj (List.append_cancel_left htexts)).2
      obtain ⟨-, hmarks⟩ := Text.quote_append_inj hquoted
      have hmarks := (List.cons.inj (List.cons.inj (List.append_cancel_left hmarks)).2).2
      apply mark_append_inj hmarks
    · exact absurd htexts.symm (hother (not_exists.mp hsymbol') _ _)
  · by_cases hsymbol' : ∃ name, content' = .symbol name
    · obtain ⟨name', rfl⟩ := hsymbol'
      exact absurd htexts (hother (not_exists.mp hsymbol) _ _)
    · have hnone : ∀ {content : Host}, (∀ name, content ≠ .symbol name) →
          '@' ∉ content.typeName.toList ++ ' ' :: content.text.toList ++ [' '] := by
        intro content hcontent hmem
        obtain hmem | hmem := List.mem_append.mp hmem
        · apply Host.at_notMem_text hcontent hmem
        · exact absurd hmem (by decide)
      have hmarks : content.typeName.toList ++ ' ' :: content.text.toList ++ [' ']
            ++ '@' :: (decimalDigits i ++ '>' :: us)
          = content'.typeName.toList ++ ' ' :: content'.text.toList ++ [' ']
            ++ '@' :: (decimalDigits j ++ '>' :: vs) := by
        simpa using htexts
      obtain ⟨-, hmarks⟩ := append_cons_inj (hnone (not_exists.mp hsymbol))
        (hnone (not_exists.mp hsymbol')) hmarks
      apply mark_append_inj hmarks

/-! ### Values -/

/-- In a range, too, the value can be told from other values by its text, whatever follows. -/
def ToldInRange (heap : Heap) (v : Value) : Prop :=
  v.isRange = false → ∀ w us vs, w.Legible heap → w.isRange = false → Ends us → Ends vs →
    v.chars ++ us = w.chars ++ vs → v = w ∧ us = vs

/-- The value can be told from other values by its text, whatever follows in an array or a map. -/
def Told (heap : Heap) (v : Value) : Prop :=
  ∀ w us vs, w.Legible heap → Closes us → Closes vs → v.chars ++ us = w.chars ++ vs →
    v = w ∧ us = vs

/-- What begins with the dots of a range. -/
theorem ends_dots (exclusive : Bool) (us : List Char) :
  Ends (dots exclusive ++ us)
  := by
  cases exclusive <;> trivial

theorem not_closes_dots (exclusive : Bool) (us : List Char) :
  ¬Closes (dots exclusive ++ us)
  := by
  cases exclusive <;> exact fun h => absurd h (by simp [dots, Closes, isCloser])

variable {heap : Heap}

/-- The text of an end of a range does not begin with what closes an array or a map, nor with a sign of
equality. -/
theorem endChars_append_inj {stop stop' : Option Value} {us vs : List Char}
    (hstop : ∀ v ∈ stop, v.ToldInRange heap) (hnone : ∀ v ∈ stop, v.isRange = false)
    (hlegible : ∀ v ∈ stop', v.Legible heap) (hnone' : ∀ v ∈ stop', v.isRange = false)
    (hu : Closes us) (hv : Closes vs) (h : endChars stop ++ us = endChars stop' ++ vs) :
  stop = stop' ∧ us = vs
  := by
  have hone : ∀ {v : Value} {us vs : List Char}, v.isRange = false → Closes vs →
      v.chars ++ us = vs → False := by
    intro v us vs hv hclose heq
    cases vs with
    | nil =>
      obtain ⟨c, rest, hc, -⟩ := exists_chars hv
      rw [hc] at heq
      cases heq
    | cons c vs => exact chars_append_ne hv (leadOf_of_isCloser hclose) us vs heq
  cases stop with
  | none =>
    cases stop' with
    | none => exact ⟨rfl, h⟩
    | some w => exact (hone (hnone' w rfl) hu h.symm).elim
  | some v =>
    cases stop' with
    | none => exact (hone (hnone v rfl) hv h).elim
    | some w =>
      obtain ⟨rfl, rfl⟩ := hstop v rfl (hnone v rfl) w us vs (hlegible w rfl) (hnone' w rfl)
        hu.ends hv.ends h
      exact ⟨rfl, rfl⟩

/-- The dots of a range and its upper end are determined by their text. -/
theorem dots_append_inj {exclusive exclusive' : Bool} {stop stop' : Option Value}
    {us vs : List Char} (hstop : ∀ v ∈ stop, v.ToldInRange heap)
    (hnone : ∀ v ∈ stop, v.isRange = false) (hlegible : ∀ v ∈ stop', v.Legible heap)
    (hnone' : ∀ v ∈ stop', v.isRange = false) (hu : Closes us) (hv : Closes vs)
    (h : dots exclusive ++ (endChars stop ++ us) = dots exclusive' ++ (endChars stop' ++ vs)) :
  exclusive = exclusive' ∧ stop = stop' ∧ us = vs
  := by
  have hequal : ∀ {stop : Option Value} {us vs : List Char}, (∀ v ∈ stop, v.isRange = false) →
      Closes us → endChars stop ++ us ≠ '=' :: vs := by
    intro stop us vs hnone hclose heq
    cases stop with
    | none =>
      rw [show us = '=' :: vs from heq] at hclose
      cases hclose
    | some v => exact chars_append_ne (hnone v rfl) rfl us vs heq
  cases exclusive <;> cases exclusive'
  · exact ⟨rfl, endChars_append_inj hstop hnone hlegible hnone' hu hv (List.append_cancel_left h)⟩
  · exact absurd (List.cons.inj (List.cons.inj h).2).2.symm (hequal hnone' hv)
  · exact absurd (List.cons.inj (List.cons.inj h).2).2 (hequal hnone hu)
  · exact ⟨rfl, endChars_append_inj hstop hnone hlegible hnone' hu hv (List.append_cancel_left h)⟩

/-- A value that can be told from others in a range can be told from them elsewhere. -/
theorem ToldInRange.told {v : Value} (hv : v.isRange = false) (h : v.ToldInRange heap) :
  v.Told heap
  := by
  intro w us vs hw hu hv' heq
  cases hrange : w.isRange with
  | false => exact h hv w us vs hw hrange hu.ends hv'.ends heq
  | true =>
    cases hw with
    | @range start stop exclusive hstart hstop hplain hplain' =>
      rw [chars_range, List.append_assoc, List.append_assoc] at heq
      cases start with
      | none => cases exclusive <;> exact absurd heq (chars_append_ne hv rfl _ _)
      | some w =>
        obtain ⟨-, rfl⟩ := h hv w us _ (hstart w rfl) (hplain w rfl) hu.ends (ends_dots _ _) heq
        exact absurd hu (not_closes_dots _ _)
    | _ => cases hrange

/-- A range can be told from other values if its ends can. -/
theorem told_range {start stop : Option Value} {exclusive : Bool}
    (hstart : ∀ v ∈ start, v.ToldInRange heap) (hstop : ∀ v ∈ stop, v.ToldInRange heap)
    (hplain : ∀ v ∈ start, v.isRange = false) (hplain' : ∀ v ∈ stop, v.isRange = false) :
  (range start stop exclusive).Told heap
  := by
  intro w us vs hw hu hv h
  rw [chars_range, List.append_assoc, List.append_assoc] at h
  cases hrange : w.isRange with
  | false =>
    cases start with
    | none => cases exclusive <;> exact absurd h.symm (chars_append_ne hrange rfl _ _)
    | some v =>
      obtain ⟨-, rfl⟩ := hstart v rfl (hplain v rfl) w _ vs hw hrange (ends_dots _ _) hv.ends h
      exact absurd hv (not_closes_dots _ _)
  | true =>
    cases hw with
    | @range start' stop' exclusive' hlegible hlegible' hends hends' =>
      rw [chars_range, List.append_assoc, List.append_assoc] at h
      cases start with
      | none =>
        cases start' with
        | none =>
          obtain ⟨rfl, rfl, rfl⟩ := dots_append_inj hstop hplain' hlegible' hends' hu hv h
          exact ⟨rfl, rfl⟩
        | some w =>
          have hne := chars_append_ne (hends w rfl) (c := '.') rfl
          cases exclusive <;> exact absurd h.symm (hne _ _)
      | some v =>
        cases start' with
        | none =>
          have hne := chars_append_ne (hplain v rfl) (c := '.') rfl
          cases exclusive' <;> exact absurd h (hne _ _)
        | some w =>
          obtain ⟨rfl, hrest⟩ := hstart v rfl (hplain v rfl) w _ _ (hlegible w rfl) (hends w rfl)
            (ends_dots _ _) (ends_dots _ _) h
          obtain ⟨rfl, rfl, rfl⟩ := dots_append_inj hstop hplain' hlegible' hends' hu hv hrest
          exact ⟨rfl, rfl⟩
    | _ => cases hrange

theorem chars_int (n : Int64) :
  (int n).chars = signedDigits n.toInt
  := toList_toString_int64 n

theorem seamless_number {v : Value} (hv : v.lead = .number) :
  Seamless v.chars
  := by
  cases v with
  | int n =>
    rw [chars_int]
    apply seamless_of_forall
    intro c hc
    apply Numeral.not_closer
    obtain rfl | hc := mem_signedDigits hc
    · exact .inr (.inr rfl)
    · exact .inl hc
  | float x => exact seamless_floatText x
  | _ => cases hv

/-- A number can be told from other values. -/
theorem toldInRange_number {v : Value} (hv : v.lead = .number) :
  v.ToldInRange heap
  := by
  intro hrange w us vs _ hrange' hu hv' h
  have hw : w.lead = .number := (lead_eq hrange hrange' h).symm.trans hv
  obtain ⟨htext, rfl⟩ := (seamless_number hv).append_inj (seamless_number hw) hu hv' h
  refine ⟨?_, rfl⟩
  cases v with
  | int n =>
    rw [chars_int] at htext
    cases w with
    | int m =>
      rw [chars_int] at htext
      rw [Int64.toInt_inj.mp (signedDigits_injective htext)]
    | float x => exact absurd htext.symm (floatText_ne_signedDigits x _)
    | _ => cases hw
  | float x =>
    cases w with
    | int m =>
      rw [chars_int] at htext
      exact absurd htext (floatText_ne_signedDigits x _)
    | float y => rw [floatText_injective (String.toList_inj.mp htext)]
    | _ => cases hw
  | _ => cases hv

/-- A value that is one of few can be told from other values. -/
theorem toldInRange_name {v : Value} (hv : v = .null ∨ v = .missing ∨ ∃ b, v = .bool b) :
  v.ToldInRange heap
  := by
  intro hrange w us vs _ hrange' _ _ h
  have hlead := lead_eq hrange hrange' h
  obtain rfl | rfl | ⟨b, rfl⟩ := hv
  · cases w with
    | null => exact ⟨rfl, List.append_cancel_left h⟩
    | _ => cases hlead
  · cases w with
    | missing => exact ⟨rfl, List.append_cancel_left h⟩
    | _ => cases hlead
  · cases w with
    | bool b' =>
      cases b <;> cases b'
      · exact ⟨rfl, List.append_cancel_left h⟩
      · exact absurd (List.cons.inj h).1 (by decide)
      · exact absurd (List.cons.inj h).1 (by decide)
      · exact ⟨rfl, List.append_cancel_left h⟩
    | _ => cases hlead

theorem toldInRange_string (s : String) :
  (string s).ToldInRange heap
  := by
  intro hrange w us vs _ hrange' _ _ h
  have hlead := lead_eq hrange hrange' h
  cases w with
  | string t =>
    obtain ⟨rfl, rfl⟩ := Text.quote_append_inj h
    exact ⟨rfl, rfl⟩
  | _ => cases hlead

/-- The text of a legible value does not begin with what closes an array or a map. -/
theorem Legible.chars_append_ne {v : Value} (hv : v.Legible heap) {c : Char} (hc : isCloser c)
    (us vs : List Char) :
  v.chars ++ us ≠ c :: vs
  := by
  cases hrange : v.isRange with
  | false => exact Value.chars_append_ne hrange (leadOf_of_isCloser hc) us vs
  | true =>
    cases hv with
    | @range start stop exclusive _ _ hplain _ =>
      rw [chars_range, List.append_assoc, List.append_assoc]
      cases start with
      | none =>
        intro h
        have hdot : '.' = c := by
          cases exclusive <;> exact (List.cons.inj h).1
        rw [← hdot] at hc
        cases hc
      | some v => exact Value.chars_append_ne (hplain v rfl) (leadOf_of_isCloser hc) _ _
    | _ => cases hrange

/-- An array can be told from other values if its items can. -/
theorem toldInRange_array {items : List Value} (hlegible : ∀ v ∈ items, v.Legible heap)
    (hitems : ∀ v ∈ items, v.Told heap) :
  (array items).ToldInRange heap
  := by
  intro hrange w us vs hw hrange' _ _ h
  have hlead := lead_eq hrange hrange' h
  cases w with
  | array items' =>
    rw [chars_array, chars_array, List.cons_append, List.cons_append] at h
    obtain ⟨rfl, rfl⟩ := listed_append_inj (f := chars) rfl (by decide)
      (fun v hv w hw' us vs => hitems v hv w us vs (hw.items w hw'))
      (fun v us vs hv => hv.elim (fun hv => (hlegible v hv).chars_append_ne rfl us vs)
        fun hv => (hw.items v hv).chars_append_ne rfl us vs)
      (List.cons.inj h).2
    exact ⟨rfl, rfl⟩
  | _ => cases hlead

/-- A map can be told from other values if the values of its entries can. -/
theorem toldInRange_map {entries : Entries} (hentries : ∀ e ∈ entries, e.2.Told heap) :
  (map entries).ToldInRange heap
  := by
  intro hrange w us vs hw hrange' _ _ h
  have hlead := lead_eq hrange hrange' h
  cases w with
  | map entries' =>
    rw [chars_map, chars_map, List.cons_append, List.cons_append] at h
    obtain ⟨rfl, rfl⟩ := listed_append_inj (f := entryChars) rfl (by decide)
      (by
        rintro ⟨key, v⟩ he ⟨key', w⟩ he' us vs hu hv heq
        simp only [entryChars, List.append_assoc, List.cons_append] at heq
        obtain ⟨rfl, hrest⟩ := Text.quote_append_inj heq
        obtain ⟨rfl, rfl⟩ := hentries _ he w us vs (hw.entries _ he') hu hv
          (List.cons.inj (List.cons.inj hrest).2).2
        exact ⟨rfl, rfl⟩)
      (by
        intro e us vs _ heq
        rw [entryChars, Text.toList_quote] at heq
        exact absurd (List.cons.inj heq).1 (by decide))
      (List.cons.inj h).2
    exact ⟨rfl, rfl⟩
  | _ => cases hlead

theorem toldInRange_regex {p : Pattern} (hp : p.Closed) :
  (regex p).ToldInRange heap
  := by
  intro hrange w us vs hw hrange' hu hv h
  have hlead := lead_eq hrange hrange' h
  cases w with
  | regex q =>
    cases hw with
    | regex hq =>
      obtain ⟨rfl, rfl⟩ := hp.append_inj hq hu hv h
      exact ⟨rfl, rfl⟩
  | _ => cases hlead

theorem toldInRange_host (identity : Nat) :
  (host identity (heap identity).1 (heap identity).2).ToldInRange heap
  := by
  intro hrange w us vs hw hrange' hu hv h
  have hlead := lead_eq hrange hrange' h
  cases hw with
  | host identity' =>
    obtain ⟨rfl, rfl⟩ := host_append_inj h
    exact ⟨rfl, rfl⟩
  | _ => cases hlead

/-- A legible value can be told from all other legible values by its text, whatever follows. -/
theorem Legible.told {v : Value} (hv : v.Legible heap) :
  v.ToldInRange heap ∧ v.Told heap
  := by
  have hboth : ∀ {v : Value}, v.isRange = false → v.ToldInRange heap →
      v.ToldInRange heap ∧ v.Told heap :=
    fun hv h => ⟨h, h.told hv⟩
  induction hv with
  | null => exact hboth rfl (toldInRange_name (.inl rfl))
  | missing => exact hboth rfl (toldInRange_name (.inr (.inl rfl)))
  | bool b => exact hboth rfl (toldInRange_name (.inr (.inr ⟨b, rfl⟩)))
  | int n => exact hboth rfl (toldInRange_number rfl)
  | float x => exact hboth rfl (toldInRange_number rfl)
  | string s => exact hboth rfl (toldInRange_string s)
  | array h ih => exact hboth rfl (toldInRange_array h fun v hv => (ih v hv).2)
  | map _ ih => exact hboth rfl (toldInRange_map fun e he => (ih e he).2)
  | regex h => exact hboth rfl (toldInRange_regex h)
  | range exclusive _ _ hplain hplain' ih ih' =>
    constructor
    · intro hrange
      cases hrange
    · apply told_range (fun v hv => (ih v hv).1) (fun v hv => (ih' v hv).1) hplain hplain'
  | host identity => exact hboth rfl (toldInRange_host identity)

/-- Legible values with the same text are the same. -/
theorem Legible.eq_of_uniqueText_eq {v w : Value} (hv : v.Legible heap) (hw : w.Legible heap)
    (h : v.uniqueText = w.uniqueText) :
  v = w
  := by
  have hchars : v.chars ++ [] = w.chars ++ [] := by rw [chars, chars, h]
  apply (hv.told.2 w [] [] hw trivial trivial hchars).1

end Value

end DocQuery
