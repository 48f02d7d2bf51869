import Subgraph.Proofs.Scanning
import Subgraph.Document.Parser

/-!
# Parsers on texts

What a parser does with the tokens of a text is told by the text that it leaves. Parsers that run one
after the other take parts of the text that follow each other.
-/

namespace Subgraph.Token

theorem lexemes_tokens (size size' : Nat) (cs : List Char) :
    (tokens size cs).map (·.lexeme) = (tokens size' cs).map (·.lexeme) := by
  induction hn : cs.length using Nat.strongRecOn generalizing cs with
  | ind n ih =>
    rw [tokens_eq, tokens_eq size']
    cases hscan : scanOne (skip cs) with
    | error f => rfl
    | ok r =>
      obtain ⟨l, rest⟩ := r
      by_cases hl : l = .finish
      · subst hl
        rfl
      · have hlt := length_of_scanOne hscan hl
        have hle := length_skip_le cs
        have hrest := ih rest.length (by omega) rest rfl
        cases l with
        | finish => exact absurd rfl hl
        | _ => simp only [List.map_cons, hrest]

/-- How many tokens a text has. -/
def count (cs : List Char) : Nat := (tokens 0 cs).length

theorem length_tokens (size : Nat) (cs : List Char) : (tokens size cs).length = count cs := by
  have h := congrArg List.length (lexemes_tokens size 0 cs)
  rwa [List.length_map, List.length_map] at h

theorem count_pos (cs : List Char) : 0 < count cs := by
  obtain ⟨p, ts, h⟩ := tokens_front 0 cs
  rw [count, h]
  exact Nat.succ_pos _

/-- No token at the front that could not be read. -/
def Sound (cs : List Char) : Prop := ∀ e, front cs ≠ .bad e

theorem Sound.position {cs : List Char} (h : Sound cs) (size : Nat) :
    ∃ ts, tokens size cs = ⟨size - (skip cs).length, front cs⟩ :: ts := by
  unfold Sound at h
  rw [tokens_eq]
  rw [front] at h ⊢
  cases hscan : scanOne (skip cs) with
  | error f =>
    rw [hscan] at h
    exact absurd rfl (h f.error)
  | ok r =>
    obtain ⟨l, rest⟩ := r
    cases l <;> exact ⟨_, rfl⟩

theorem tokens_ne_append {c : Char} (hc : isSeparator c = false) (hcomment : c ≠ '#')
    (text rest : List Char) (h : Sound (c :: text ++ rest)) :
    tokens (c :: text ++ rest).length rest
      ≠ tokens (c :: text ++ rest).length (c :: text ++ rest) := by
  intro heq
  obtain ⟨ts, hts⟩ := h.position (c :: text ++ rest).length
  obtain ⟨p, ts', hts'⟩ := tokens_front (c :: text ++ rest).length rest
  have hsound : Sound rest := by
    intro e he
    rw [hts, hts', he] at heq
    exact h e (Token.mk.inj (List.cons.inj heq).1).2.symm
  obtain ⟨ts', hts'⟩ := hsound.position (c :: text ++ rest).length
  rw [hts, hts'] at heq
  have hposition := (Token.mk.inj (List.cons.inj heq).1).1
  have hle := length_skip_le rest
  rw [List.cons_append, skip_of_other hc hcomment] at hposition
  simp only [List.length_cons, List.length_append] at hposition
  omega

end Subgraph.Token

namespace Subgraph.Parser
open Token
variable {α β : Type} {cs cs' rest : List Char} {a : α} {b : β}

/-- The parser reads a value at the front of a text and leaves the rest of it. -/
structure Takes (p : Parser α) (cs : List Char) (a : α) (rest : List Char) : Prop where
  run : ∀ size, p (tokens size cs) = .ok (a, tokens size rest)
  suffix : ∀ size, tokens size rest <:+ tokens size cs

theorem takes_pure (a : α) (cs : List Char) : Takes (pure a) cs a cs where
  run _ := rfl
  suffix _ := List.suffix_refl _

theorem Takes.bind {p : Parser α} {f : α → Parser β} (hp : Takes p cs a cs')
    (hf : Takes (f a) cs' b rest) : Takes (p >>= f) cs b rest where
  run size := by
    show (p (tokens size cs) >>= fun r => f r.1 r.2) = _
    rw [hp.run]
    exact hf.run size
  suffix size := (hf.suffix size).trans (hp.suffix size)

theorem Takes.map {p : Parser α} (hp : Takes p cs a rest) (f : α → β) :
    Takes (f <$> p) cs (f a) rest where
  run size := by
    show (p (tokens size cs) >>= fun r => Except.ok (f r.1, r.2)) = _
    rw [hp.run]
    rfl
  suffix := hp.suffix

theorem Takes.separators {p : Parser α} {s : List Char} (hss : ∀ c ∈ s, isSeparator c = true)
    (hp : Takes p cs a rest) : Takes p (s ++ cs) a rest where
  run size := by rw [tokens_separators size hss]; exact hp.run size
  suffix size := by rw [tokens_separators size hss]; exact hp.suffix size

theorem Takes.leave {p : Parser α} {a : α} {s : List Char}
    (h : Takes p cs a (s ++ rest)) (hss : ∀ c ∈ s, isSeparator c = true) : Takes p cs a rest where
  run size := by rw [h.run, tokens_separators size hss]
  suffix size := by
    have hsuffix := h.suffix size
    rwa [tokens_separators size hss] at hsuffix

theorem Takes.count_lt {p : Parser α} {c : Char} {text : List Char}
    (hp : Takes p (c :: text ++ rest) a rest) (hc : isSeparator c = false) (hcomment : c ≠ '#')
    (h : Sound (c :: text ++ rest)) : count rest < count (c :: text ++ rest) := by
  have hsuffix := hp.suffix (c :: text ++ rest).length
  by_contra hle
  refine tokens_ne_append hc hcomment text rest h (hsuffix.eq_of_length_le ?_)
  rw [length_tokens, length_tokens]
  omega

section Primitives

theorem takes_front (cs : List Char) : Takes peek cs (Token.front cs) cs where
  run size := by
    obtain ⟨p, ts, h⟩ := tokens_front size cs
    rw [h]
    rfl
  suffix _ := List.suffix_refl _

theorem takes_here (cs : List Char) : Takes (here (μ := Unit)) cs () cs where
  run _ := rfl
  suffix _ := List.suffix_refl _

theorem takes_position {f : Nat → Parser α} (h : ∀ p, Takes (f p) cs a rest) :
    Takes (position >>= f) cs a rest where
  run size := (h _).run size
  suffix := (h 0).suffix

theorem takes_frontToken {f : Token → Parser α} (h : ∀ p, Takes (f ⟨p, Token.front cs⟩) cs a rest) :
    Takes (Parser.front >>= f) cs a rest where
  run size := by
    obtain ⟨p, ts, hp⟩ := tokens_front size cs
    have hrun := (h p).run size
    rw [hp] at hrun ⊢
    exact hrun
  suffix := (h 0).suffix

theorem takes_lookAhead {l : Lexeme} {f : Token → Parser α} (hcs : Starts cs l cs')
    (hnext : Sound cs') (h : ∀ p, Takes (f ⟨p, Token.front cs'⟩) cs a rest) :
    Takes (lookAhead >>= f) cs a rest where
  run size := by
    obtain ⟨p, hp⟩ := hcs size
    obtain ⟨ts, hts⟩ := hnext.position size
    have hrun := (h (size - (skip cs').length)).run size
    rw [hp, hts] at hrun ⊢
    cases hl : Token.front cs' with
    | bad e => exact absurd hl (hnext e)
    | _ =>
      rw [hl] at hrun
      exact hrun
  suffix := (h 0).suffix

theorem takes_advance {l : Lexeme} (h : Starts cs l rest) (hrest : Sound rest) :
    Takes advance cs () rest where
  run size := by
    obtain ⟨p, hp⟩ := h size
    obtain ⟨q, ts, hq⟩ := tokens_front size rest
    rw [hp, hq]
    cases hl : Token.front rest with
    | bad e => exact absurd hl (hrest e)
    | _ => rfl
  suffix size := by
    obtain ⟨p, hp⟩ := h size
    rw [hp]
    exact List.suffix_cons _ _

theorem takes_expect {p : Punctuation} (h : Starts cs (.punctuation p) rest) (hrest : Sound rest) :
    Takes (expect p) cs () rest := by
  refine (takes_front cs).bind ?_
  rw [h.front_eq, if_pos rfl]
  exact takes_advance h hrest

theorem takes_accept {p : Punctuation} (h : Starts cs (.punctuation p) rest) (hrest : Sound rest) :
    Takes (accept p) cs true rest := by
  refine (takes_front cs).bind ?_
  rw [h.front_eq, if_pos rfl]
  exact (takes_advance h hrest).bind (takes_pure true rest)

theorem takes_refuse {p : Punctuation} (h : Token.front cs ≠ .punctuation p) :
    Takes (accept p) cs false cs := by
  refine (takes_front cs).bind ?_
  rw [if_neg h]
  exact takes_pure false cs

theorem takes_expectWord {w : String} (h : Starts cs (.name w) rest) (hrest : Sound rest) :
    Takes (expectWord w) cs () rest := by
  refine (takes_front cs).bind ?_
  rw [h.front_eq, if_pos rfl]
  exact takes_advance h hrest

theorem takes_acceptWord {w : String} (h : Starts cs (.name w) rest) (hrest : Sound rest) :
    Takes (acceptWord w) cs true rest := by
  refine (takes_front cs).bind ?_
  rw [h.front_eq, if_pos rfl]
  exact (takes_advance h hrest).bind (takes_pure true rest)

theorem takes_refuseWord {w : String} (h : Token.front cs ≠ .name w) :
    Takes (acceptWord w) cs false cs := by
  refine (takes_front cs).bind ?_
  rw [if_neg h]
  exact takes_pure false cs

theorem takes_name {n : String} (h : Starts cs (.name n) rest) (hrest : Sound rest) :
    Takes name cs n rest := by
  refine (takes_front cs).bind ?_
  rw [h.front_eq]
  exact (takes_advance h hrest).bind (takes_pure n rest)

end Primitives

section Lists
variable {item : Parser α} {close mark : Punctuation}

/-- Items that stand one behind the other up to a closing mark. -/
inductive Series (item : Parser α) (close : Punctuation) :
    List Char → List α → List Char → Prop where
  | nil {cs rest : List Char} (closes : Starts cs (.punctuation close) rest) (sound : Sound rest) :
      Series item close cs [] rest
  | cons {cs cs' rest : List Char} {a : α} {as : List α} (sound : Sound cs)
      (opens : Token.front cs ≠ .punctuation close) (takes : Takes item cs a cs')
      (shrinks : count cs' < count cs) (more : Series item close cs' as rest) :
      Series item close cs (a :: as) rest

theorem sound_of_starts {l : Lexeme} (h : Starts cs l rest) (hl : ∀ e, l ≠ .bad e) : Sound cs := by
  intro e he
  rw [h.front_eq] at he
  exact hl e he

theorem Series.sound {as : List α} (h : Series item close cs as rest) : Sound cs := by
  cases h with
  | nil closes _ => exact sound_of_starts closes nofun
  | cons sound _ _ _ _ => exact sound

theorem Series.takes_upTo {as : List α} (h : Series item close cs as rest) {fuel : Nat}
    (hfuel : count cs ≤ fuel) : Takes (upTo close item fuel) cs as rest := by
  induction h generalizing fuel with
  | nil closes sound =>
    obtain ⟨fuel, rfl⟩ := Nat.exists_eq_succ_of_ne_zero
      (Nat.ne_zero_of_lt (Nat.lt_of_lt_of_le (count_pos _) hfuel))
    exact (takes_accept closes sound).bind (takes_pure [] _)
  | cons _ opens takes shrinks more ih =>
    obtain ⟨fuel, rfl⟩ := Nat.exists_eq_succ_of_ne_zero
      (Nat.ne_zero_of_lt (Nat.lt_of_lt_of_le (count_pos _) hfuel))
    refine (takes_refuse opens).bind ?_
    refine takes.bind ?_
    exact (ih (by omega)).bind (takes_pure _ _)

theorem takes_tokensLeft {f : Nat → Parser α} (h : Takes (f (count cs)) cs a rest) :
    Takes (tokensLeft >>= f) cs a rest where
  run size := by
    show f (tokens size cs).length (tokens size cs) = _
    rw [length_tokens]
    exact h.run size
  suffix := h.suffix

theorem Series.takes_many {open' : Punctuation} {as : List α} (h : Series item close cs' as rest)
    (hopen : Starts cs (.punctuation open') cs') (hne : as ≠ []) :
    Takes (many open' close item) cs as rest := by
  have hsound := h.sound
  cases h with
  | nil => exact absurd rfl hne
  | cons _ opens takes shrinks more =>
    refine (takes_expect hopen hsound).bind ?_
    refine takes.bind ?_
    refine takes_tokensLeft ?_
    exact (more.takes_upTo (Nat.le_refl _)).bind (takes_pure _ _)

theorem Series.takes_optionalMany {open' : Punctuation} {as : List α}
    (h : Series item close cs' as rest) (hopen : Starts cs (.punctuation open') cs')
    (hne : as ≠ []) : Takes (optionalMany open' close item) cs as rest := by
  refine (takes_front cs).bind ?_
  rw [hopen.front_eq, if_pos rfl]
  exact h.takes_many hopen hne

theorem takes_noMany {open' : Punctuation} (h : Token.front cs ≠ .punctuation open') :
    Takes (optionalMany open' close item) cs [] cs := by
  refine (takes_front cs).bind ?_
  rw [if_neg h]
  exact takes_pure [] cs

/-- Items between which a mark stands. -/
inductive Chain (item : Parser α) (mark : Punctuation) :
    List Char → List α → List Char → Prop where
  | last {cs rest : List Char} {a : α} (takes : Takes item cs a rest)
      (ends : Token.front rest ≠ .punctuation mark) : Chain item mark cs [a] rest
  | cons {cs cs₁ cs₂ rest : List Char} {a : α} {as : List α} (takes : Takes item cs a cs₁)
      (marks : Starts cs₁ (.punctuation mark) cs₂) (sound : Sound cs₂)
      (more : Chain item mark cs₂ as rest) : Chain item mark cs (a :: as) rest

theorem Starts.count_eq {l : Lexeme} (h : Starts cs l rest) : count cs = count rest + 1 := by
  obtain ⟨p, hp⟩ := h 0
  rw [count, hp]
  rfl

theorem Takes.count_le {p : Parser α} (h : Takes p cs a rest) : count rest ≤ count cs :=
  (h.suffix 0).length_le

theorem Chain.takes_separatedFrom {as : List α} (h : Chain item mark cs as rest) {fuel : Nat}
    (hfuel : count cs ≤ fuel) : Takes (separatedFrom mark item fuel) cs as rest := by
  induction h generalizing fuel with
  | last takes ends =>
    obtain ⟨fuel, rfl⟩ := Nat.exists_eq_succ_of_ne_zero
      (Nat.ne_zero_of_lt (Nat.lt_of_lt_of_le (count_pos _) hfuel))
    refine takes.bind ?_
    exact (takes_refuse ends).bind (takes_pure _ _)
  | cons takes marks sound more ih =>
    obtain ⟨fuel, rfl⟩ := Nat.exists_eq_succ_of_ne_zero
      (Nat.ne_zero_of_lt (Nat.lt_of_lt_of_le (count_pos _) hfuel))
    have hle := takes.count_le
    have hcount := Starts.count_eq marks
    refine takes.bind ?_
    refine (takes_accept marks sound).bind ?_
    exact (ih (by omega)).bind (takes_pure _ _)

theorem Chain.takes_separated {as : List α} (h : Chain item mark cs as rest)
    (hfirst : Token.front cs ≠ .punctuation mark) : Takes (separated mark item) cs as rest := by
  refine (takes_refuse hfirst).bind ?_
  exact takes_tokensLeft (h.takes_separatedFrom (Nat.le_refl _))

end Lists
end Subgraph.Parser
