import DocQuery.Pattern
import DocQuery.Text.Quoted
import Mathlib.Data.List.Basic

/-!
# Reading texts

A text that is followed by others can be read back if it shows where it ends. A quoted text ends by
itself: a character between quotes is written in one of three ways that cannot be confused, and none
of them begins with a quote. Other texts end where a comma, a bracket, a brace or the dots of a range
follow, if nothing in them looks like it. The source of a pattern may hold anything, so it has to be
asked of a pattern that nothing in it looks like its end.
-/

namespace DocQuery

/-! ### Ends of texts -/

/-- Two texts agree up to the first place where a mark stands, and behind it. -/
theorem append_cons_inj {α : Type} {a : α} {xs ys us vs : List α} (hx : a ∉ xs) (hy : a ∉ ys)
    (h : xs ++ a :: us = ys ++ a :: vs) :
  xs = ys ∧ us = vs
  := by
  induction xs generalizing ys with
  | nil =>
    cases ys with
    | nil => exact ⟨rfl, (List.cons.inj h).2⟩
    | cons y ys => exact absurd (List.cons.inj h).1 (List.ne_of_not_mem_cons hy)
  | cons x xs ih =>
    cases ys with
    | nil => exact absurd (List.cons.inj h).1.symm (List.ne_of_not_mem_cons hx)
    | cons y ys =>
      obtain ⟨rfl, hrest⟩ := List.cons.inj h
      obtain ⟨rfl, rfl⟩ :=
        ih (List.not_mem_of_not_mem_cons hx) (List.not_mem_of_not_mem_cons hy) hrest
      exact ⟨rfl, rfl⟩

/-- Two texts agree if each is the shortest that leaves something with a property. -/
theorem append_inj_of_shortest {E : List Char → Prop} {xs ys us vs : List Char}
    (hx : ∀ as bs, xs = as ++ bs → bs ≠ [] → ¬E (bs ++ us))
    (hy : ∀ as bs, ys = as ++ bs → bs ≠ [] → ¬E (bs ++ vs)) (hu : E us) (hv : E vs)
    (h : xs ++ us = ys ++ vs) :
  xs = ys ∧ us = vs
  := by
  obtain ⟨cs, rfl, rfl⟩ | ⟨cs, rfl, rfl⟩ := List.append_eq_append_iff.mp h
  · cases cs with
    | nil => exact ⟨(List.append_nil xs).symm, rfl⟩
    | cons c cs => exact absurd hu (hy xs _ rfl (List.cons_ne_nil c cs))
  · cases cs with
    | nil => exact ⟨List.append_nil ys, rfl⟩
    | cons c cs => exact absurd hv (hx ys _ rfl (List.cons_ne_nil c cs))

/-- The character ends a text in an array or a map. -/
def isCloser (c : Char) : Bool := c == ',' || c == ']' || c == '\x7d'

/-- What may follow a text in an array or a map. -/
def Closes : List Char → Prop
  | [] => True
  | c :: _ => isCloser c

/-- What may follow a text in an array, a map or a range. -/
def Ends : List Char → Prop
  | '.' :: '.' :: _ => True
  | cs => Closes cs

theorem Closes.ends {cs : List Char} (h : Closes cs) :
  Ends cs
  := by
  unfold Ends
  split
  · trivial
  · exact h

/-- What follows a text begins with a dot or with what ends a text in an array or a map. -/
theorem Ends.head {c : Char} {cs : List Char} (h : Ends (c :: cs)) :
  c = '.' ∧ cs.head? = some '.' ∨ isCloser c
  := by
  unfold Ends at h
  split at h
  · rename_i heq
    cases heq
    exact .inl ⟨rfl, rfl⟩
  · exact .inr h

/-- In the text is nothing that looks like its end: no comma, bracket or brace, and behind a dot
something that is none. -/
def Seamless : List Char → Prop
  | [] => True
  | c :: rest => ¬isCloser c ∧ (c = '.' → ∃ d, rest.head? = some d ∧ d ≠ '.') ∧ Seamless rest

theorem Seamless.not_ends {as bs us : List Char} (h : Seamless (as ++ bs)) (hne : bs ≠ []) :
  ¬Ends (bs ++ us)
  := by
  induction as with
  | nil =>
    cases bs with
    | nil => exact absurd rfl hne
    | cons b bs =>
      intro hends
      obtain ⟨rfl, hdot⟩ | hcloser := hends.head
      · obtain ⟨d, hd, hd'⟩ := h.2.1 rfl
        cases bs with
        | nil => cases hd
        | cons c bs =>
          cases hd
          cases hdot
          apply hd' rfl
      · apply h.1 hcloser
  | cons a as ih => exact ih h.2.2

/-- Texts with nothing in them that looks like their end are determined, and so is what follows. -/
theorem Seamless.append_inj {xs ys us vs : List Char} (hx : Seamless xs) (hy : Seamless ys)
    (hu : Ends us) (hv : Ends vs) (h : xs ++ us = ys ++ vs) :
  xs = ys ∧ us = vs
  := by
  apply append_inj_of_shortest _ _ hu hv h
  · rintro as bs rfl hne
    apply hx.not_ends hne
  · rintro as bs rfl hne
    apply hy.not_ends hne

/-- A text without commas, brackets, braces and dots has nothing in it that looks like its end. -/
theorem seamless_of_forall {cs : List Char} (h : ∀ c ∈ cs, ¬isCloser c ∧ c ≠ '.') :
  Seamless cs
  := by
  induction cs with
  | nil => trivial
  | cons c cs ih =>
    obtain ⟨hc, hcs⟩ := List.forall_mem_cons.mp h
    exact ⟨hc.1, fun hdot => absurd hdot hc.2, ih hcs⟩

/-! ### Digits -/

theorem digitChar_injective {i j : Nat} (hi : i < 16) (hj : j < 16)
    (h : i.digitChar = j.digitChar) :
  i = j
  := by
  have hall : ∀ i j : Fin 16, i.val.digitChar = j.val.digitChar → i = j := by decide
  have heq := hall ⟨i, hi⟩ ⟨j, hj⟩ h
  apply congrArg Fin.val heq

/-- Digits in a base up to sixteen determine the number. -/
theorem toDigits_injective {b : Nat} (hb : 1 < b) (hb' : b ≤ 16) {n m : Nat}
    (h : Nat.toDigits b n = Nat.toDigits b m) :
  n = m
  := by
  induction n using Nat.strongRecOn generalizing m with
  | ind n ih =>
    rw [Nat.toDigits_eq_if hb, Nat.toDigits_eq_if hb (n := m)] at h
    split at h
    · rename_i hn
      split at h
      · rename_i hm
        apply digitChar_injective (by omega) (by omega) (List.singleton_inj.mp h)
      · have hlength := congrArg List.length h
        have hpos := Nat.length_toDigits_pos (b := b) (n := m / b)
        simp only [List.length_append, List.length_singleton] at hlength
        omega
    · rename_i hn
      split at h
      · have hlength := congrArg List.length h
        have hpos := Nat.length_toDigits_pos (b := b) (n := n / b)
        simp only [List.length_append, List.length_singleton] at hlength
        omega
      · obtain ⟨hdiv, hmod⟩ := List.append_inj' h rfl
        have hlt : n / b < n := Nat.div_lt_self (by omega) hb
        have hq : n / b = m / b := ih _ hlt hdiv
        have hmodlt : ∀ k, k % b < 16 := fun k => Nat.lt_of_lt_of_le (Nat.mod_lt k (by omega)) hb'
        have hr : n % b = m % b :=
          digitChar_injective (hmodlt n) (hmodlt m) (List.singleton_inj.mp hmod)
        rw [← Nat.div_add_mod n b, ← Nat.div_add_mod m b, hq, hr]

/-- The digits of a number are digits. -/
theorem exists_digitChar_of_mem {b n : Nat} (hb : 1 < b) {c : Char} (h : c ∈ Nat.toDigits b n) :
  ∃ d : Nat, c = d.digitChar
  := by
  induction n using Nat.strongRecOn with
  | ind n ih =>
    rw [Nat.toDigits_eq_if hb] at h
    split at h
    · exact ⟨n, List.mem_singleton.mp h⟩
    · obtain h | h := List.mem_append.mp h
      · apply ih _ (Nat.div_lt_self (by omega) hb) h
      · exact ⟨_, List.mem_singleton.mp h⟩

/-! ### Characters between quotes -/

namespace Text

theorem escapeLetter?_injective {c d letter : Char} (hc : escapeLetter? c = some letter)
    (hd : escapeLetter? d = some letter) :
  c = d
  := by
  unfold escapeLetter? at hc hd
  split at hc <;> split at hd <;> simp_all <;> (subst hc; simp at hd)

theorem escapeLetter?_ne_u {c letter : Char} (h : escapeLetter? c = some letter) :
  letter ≠ 'u'
  := by
  unfold escapeLetter? at h
  split at h <;> simp at h <;> subst h <;> decide

/-- The three ways to write a character between quotes. -/
theorem escape_cases (c : Char) :
  (∃ letter, escapeLetter? c = some letter ∧ escape c = ['\\', letter])
    ∨ c ≠ '"' ∧ c ≠ '\\' ∧ escape c = [c]
    ∨ escape c = ['\\', 'u', '\x7b'] ++ (hexDigits c.toNat ++ ['\x7d'])
  := by
  unfold escape
  split
  · rename_i letter h
    exact .inl ⟨letter, h, rfl⟩
  · rename_i h
    split
    · refine .inr (.inl ⟨?_, ?_, rfl⟩)
      · rintro rfl
        cases h
      · rintro rfl
        cases h
    · exact .inr (.inr (List.append_assoc _ _ _))

theorem hexDigits_injective {c d : Char} (h : hexDigits c.toNat = hexDigits d.toNat) :
  c = d
  := Char.toNat_inj.mp (toDigits_injective (by decide) (by decide) h)

theorem brace_notMem_hexDigits (n : Nat) :
  '\x7d' ∉ hexDigits n
  := by
  intro h
  obtain ⟨d, hd⟩ := exists_digitChar_of_mem (by decide) h
  apply Nat.digitChar_ne '\x7d' (by decide) hd.symm

/-- A character between quotes and what follows it are determined by how they are written. -/
theorem escape_append_inj {c d : Char} {u v : List Char} (h : escape c ++ u = escape d ++ v) :
  c = d ∧ u = v
  := by
  obtain ⟨letter, hl, hc⟩ | ⟨hq, hb, hc⟩ | hc := escape_cases c <;>
  obtain ⟨letter', hl', hd⟩ | ⟨hq', hb', hd⟩ | hd := escape_cases d <;>
  rw [hc, hd] at h
  · obtain ⟨-, h⟩ := List.cons.inj h
    obtain ⟨rfl, rfl⟩ := List.cons.inj h
    exact ⟨escapeLetter?_injective hl hl', rfl⟩
  · obtain ⟨h, -⟩ := List.cons.inj h
    exact absurd h.symm hb'
  · obtain ⟨-, h⟩ := List.cons.inj h
    obtain ⟨h, -⟩ := List.cons.inj h
    exact absurd h (escapeLetter?_ne_u hl)
  · obtain ⟨h, -⟩ := List.cons.inj h
    exact absurd h hb
  · apply List.cons.inj h
  · obtain ⟨h, -⟩ := List.cons.inj h
    exact absurd h hb
  · obtain ⟨-, h⟩ := List.cons.inj h
    obtain ⟨h, -⟩ := List.cons.inj h
    exact absurd h.symm (escapeLetter?_ne_u hl')
  · obtain ⟨h, -⟩ := List.cons.inj h
    exact absurd h.symm hb'
  · rw [List.append_assoc, List.append_assoc, List.append_assoc, List.append_assoc] at h
    obtain ⟨hhex, rfl⟩ := append_cons_inj (brace_notMem_hexDigits _) (brace_notMem_hexDigits _)
      (List.append_cancel_left h)
    exact ⟨hexDigits_injective hhex, rfl⟩

/-- No character is written between quotes with a quote in front. -/
theorem escape_append_ne (c : Char) (u v : List Char) :
  escape c ++ u ≠ '"' :: v
  := by
  intro h
  obtain ⟨letter, -, hc⟩ | ⟨hq, -, hc⟩ | hc := escape_cases c <;> rw [hc] at h
  · obtain ⟨h, -⟩ := List.cons.inj h
    exact absurd h (by decide)
  · exact absurd (List.cons.inj h).1 hq
  · obtain ⟨h, -⟩ := List.cons.inj h
    exact absurd h (by decide)

theorem escapes_append_inj {cs ds u v : List Char}
    (h : cs.flatMap escape ++ '"' :: u = ds.flatMap escape ++ '"' :: v) :
  cs = ds ∧ u = v
  := by
  induction cs generalizing ds with
  | nil =>
    cases ds with
    | nil => exact ⟨rfl, (List.cons.inj h).2⟩
    | cons d ds =>
      rw [List.flatMap_cons, List.append_assoc] at h
      exact absurd h.symm (escape_append_ne d _ _)
  | cons c cs ih =>
    cases ds with
    | nil =>
      rw [List.flatMap_cons, List.append_assoc] at h
      exact absurd h (escape_append_ne c _ _)
    | cons d ds =>
      rw [List.flatMap_cons, List.append_assoc, List.flatMap_cons, List.append_assoc] at h
      obtain ⟨rfl, hrest⟩ := escape_append_inj h
      obtain ⟨rfl, rfl⟩ := ih hrest
      exact ⟨rfl, rfl⟩

theorem toList_quote (s : String) :
  (quote s).toList = '"' :: (s.toList.flatMap escape ++ ['"'])
  := by
  rw [quote, String.toList_ofList, List.cons_append]

/-- A quoted text and what follows it are determined by how they are written. -/
theorem quote_append_inj {s t : String} {u v : List Char}
    (h : (quote s).toList ++ u = (quote t).toList ++ v) :
  s = t ∧ u = v
  := by
  rw [toList_quote, toList_quote, List.cons_append, List.cons_append] at h
  obtain ⟨-, h⟩ := List.cons.inj h
  rw [List.append_assoc, List.append_assoc] at h
  obtain ⟨hst, rfl⟩ := escapes_append_inj h
  exact ⟨String.toList_inj.mp hst, rfl⟩

end Text

/-! ### Patterns -/

/-- The character is the letter of a flag. -/
def isFlag (c : Char) : Bool := c == 'i' || c == 'm' || c == 's' || c == 'x'

theorem isFlag_of_ofLetters {letters : List Char} {f f' : PatternFlags}
    (h : f.ofLetters letters = .ok f') :
  ∀ c ∈ letters, isFlag c
  := by
  induction letters generalizing f with
  | nil => simp
  | cons c rest ih =>
    unfold PatternFlags.ofLetters at h
    split at h
    · rename_i g hg
      apply List.forall_mem_cons.mpr ⟨_, ih h⟩
      unfold PatternFlags.add? at hg
      split at hg
      · rfl
      · rfl
      · rfl
      · rfl
      · cases hg
    · cases h

namespace Pattern

/-- The flags of a pattern are letters of flags. -/
theorem isFlag_of_mem (p : Pattern) :
  ∀ c ∈ p.flags.toList, isFlag c
  := by
  have h := p.read_eq
  unfold read at h
  split at h
  · cases h
  · split at h
    · cases h
    · rename_i hletters
      apply isFlag_of_ofLetters hletters

theorem slash_notMem_flags (p : Pattern) :
  '/' ∉ p.flags.toList
  := fun h => absurd (p.isFlag_of_mem _ h) (by decide)

theorem toList_render (p : Pattern) :
  p.render.toList = '/' :: (p.source.toList ++ '/' :: p.flags.toList)
  := by
  simp [render]

/-- A pattern alone is determined by its text. -/
theorem render_injective {p q : Pattern} (h : p.render = q.render) :
  p = q
  := by
  have hlist := congrArg String.toList h
  rw [toList_render, toList_render] at hlist
  have hreverse := congrArg List.reverse (List.cons.inj hlist).2
  simp only [List.reverse_append, List.reverse_cons, List.append_assoc, List.singleton_append]
    at hreverse
  have hslash : ∀ p : Pattern, '/' ∉ p.flags.toList.reverse := by
    intro p hmem
    apply p.slash_notMem_flags (List.mem_reverse.mp hmem)
  obtain ⟨hflags, hsource⟩ := append_cons_inj (hslash p) (hslash q) hreverse
  apply ext_of_source
  · apply String.toList_inj.mp (List.reverse_injective hsource)
  · apply String.toList_inj.mp (List.reverse_injective hflags)

end Pattern

/-- A pattern could end here: a slash and letters of flags stand before what may follow a text. -/
def Closing : List Char → Prop
  | '/' :: rest => Ends (rest.dropWhile isFlag)
  | _ => False

/-- Nothing in the source of a pattern looks like its end: behind a slash and letters of flags the
source is over, or something stands that cannot follow a text. -/
def Pattern.Closed (p : Pattern) : Prop :=
  ∀ as rest, p.source.toList = as ++ '/' :: rest → rest.dropWhile isFlag ≠ [] →
    ¬Ends (rest.dropWhile isFlag)

theorem Ends.dropWhile_isFlag {cs : List Char} (h : Ends cs) :
  cs.dropWhile isFlag = cs
  := by
  cases cs with
  | nil => rfl
  | cons c cs =>
    have hc : isFlag c = false := by
      obtain ⟨rfl, -⟩ | hcloser := h.head
      · rfl
      · simp only [isCloser, Bool.or_eq_true, beq_iff_eq] at hcloser
        obtain (rfl | rfl) | rfl := hcloser <;> rfl
    rw [List.dropWhile_cons, hc]
    rfl

namespace Pattern

/-- The end of a pattern looks like its end. -/
theorem closing_end (p : Pattern) {us : List Char} (h : Ends us) :
  Closing ('/' :: (p.flags.toList ++ us))
  := by
  change Ends ((p.flags.toList ++ us).dropWhile isFlag)
  rwa [List.dropWhile_append_of_pos p.isFlag_of_mem, h.dropWhile_isFlag]

/-- Nothing before the end of a closed pattern looks like its end. -/
theorem Closed.not_closing {p : Pattern} (hp : p.Closed) {as bs us : List Char}
    (h : p.source.toList = as ++ bs) (hne : bs ≠ []) :
  ¬Closing (bs ++ '/' :: us)
  := by
  intro hclosing
  cases bs with
  | nil => exact absurd rfl hne
  | cons b bs =>
    unfold Closing at hclosing
    split at hclosing
    · rename_i heq
      obtain ⟨rfl, rfl⟩ := List.cons.inj heq
      have hinside := hp as bs h
      change Ends ((bs ++ '/' :: us).dropWhile isFlag) at hclosing
      rw [List.dropWhile_append] at hclosing
      split at hclosing
      · obtain ⟨h, -⟩ | h := Ends.head hclosing
        · exact absurd h (by decide)
        · exact absurd h (by decide)
      · rename_i hrest
        generalize bs.dropWhile isFlag = cs at hinside hclosing hrest
        cases cs with
        | nil => exact hrest rfl
        | cons c cs =>
          apply hinside (List.cons_ne_nil c cs)
          obtain ⟨rfl, hdot⟩ | hcloser := Ends.head hclosing
          · cases cs with
            | nil => cases hdot
            | cons d cs =>
              cases hdot
              trivial
          · exact Closes.ends hcloser
    · exact hclosing

/-- Closed patterns are determined by their texts, and so is what follows. -/
theorem Closed.append_inj {p q : Pattern} (hp : p.Closed) (hq : q.Closed) {us vs : List Char}
    (hu : Ends us) (hv : Ends vs) (h : p.render.toList ++ us = q.render.toList ++ vs) :
  p = q ∧ us = vs
  := by
  rw [toList_render, toList_render] at h
  simp only [List.cons_append, List.append_assoc] at h
  obtain ⟨hsource, hrest⟩ := append_inj_of_shortest (fun _ _ => hp.not_closing)
    (fun _ _ => hq.not_closing) (p.closing_end hu) (q.closing_end hv) (List.cons.inj h).2
  have hflags : ∀ p : Pattern, Seamless p.flags.toList := by
    intro p
    apply seamless_of_forall
    intro c hc
    have hflag := p.isFlag_of_mem c hc
    simp only [isFlag, Bool.or_eq_true, beq_iff_eq] at hflag
    obtain ((rfl | rfl) | rfl) | rfl := hflag <;> decide
  obtain ⟨hflags, rfl⟩ := (hflags p).append_inj (hflags q) hu hv (List.cons.inj hrest).2
  exact ⟨ext_of_source (String.toList_inj.mp hsource) (String.toList_inj.mp hflags), rfl⟩

end Pattern

end DocQuery
