import Subgraph.Proofs.Scanning

/-!
# Quoted texts read back

Every text between quotes is read as the text that it was written for: each character is escaped by
itself, and the escape is read as that character.
-/

namespace Subgraph.Token
open Text
variable {rest : List Char}

theorem readEscape_letter {c d : Char} (h : escapeLetter? c = some d) (tail : List Char) :
    readEscape ('\\' :: d :: tail) = .ok (c, 2) := by
  have hback := letterEscape_escapeLetter h
  have hd : d ≠ 'u' := by
    rintro rfl
    cases hback
  rw [readEscape, hback]
  · exact fun _ heq => absurd heq hd
  · exact hd

theorem readEscape_hex {n : Nat} (hn : n < 160) (tail : List Char) :
    readEscape ('\\' :: 'u' :: (upperHex 4 n ++ tail)) = .ok (Char.ofNat n, 6)
      ∧ (upperHex 4 n).length = 4 := by
  have hall : ∀ n < 160, (upperHex 4 n).length = 4 ∧ hexRun? (upperHex 4 n) = some n
      ∧ isScalar n = true ∧ (upperHex 4 n).head? ≠ some '\x7b' := by decide +kernel
  obtain ⟨hlength, hrun, hscalar, hbrace⟩ := hall n hn
  have htake : (upperHex 4 n ++ tail).take 4 = upperHex 4 n := by
    rw [List.take_append_of_le_length (Nat.le_of_eq hlength.symm), List.take_of_length_le
      (Nat.le_of_eq hlength)]
  refine ⟨?_, hlength⟩
  rw [readEscape]
  · simp only [htake, hlength, hrun, hscalar, if_true]
  · intro r heq
    have hhead := congrArg List.head? heq
    rw [List.head?_append_of_ne_nil _ (List.ne_nil_of_length_pos (by omega))] at hhead
    exact hbrace hhead

theorem scanQuoted_escapeChar (fuel : Nat) (done : List Char) (c : Char) (tail : List Char) :
    scanQuoted (fuel + 1) done (escapeChar c ++ tail) = scanQuoted fuel (c :: done) tail := by
  unfold escapeChar
  cases h : escapeLetter? c with
  | some d =>
    show scanQuoted (fuel + 1) done ('\\' :: d :: tail) = _
    rw [scanQuoted, readEscape_letter h]
    rfl
  | none =>
    have hc : c ≠ '"' ∧ c ≠ '\\' ∧ c ≠ '\n' ∧ c ≠ '\r' := by
      refine ⟨?_, ?_, ?_, ?_⟩ <;> (rintro rfl; cases h)
    cases hcontrol : isControl c with
    | true =>
      have hsmall : c.toNat < 160 := by
        simp only [isControl, Bool.or_eq_true, Bool.and_eq_true, decide_eq_true_eq] at hcontrol
        omega
      obtain ⟨hread, hlength⟩ := readEscape_hex hsmall tail
      have hdrop : ('\\' :: 'u' :: (upperHex 4 c.toNat ++ tail)).drop 6 = tail := by
        show (upperHex 4 c.toNat ++ tail).drop 4 = tail
        exact List.drop_left' hlength
      show scanQuoted (fuel + 1) done ('\\' :: 'u' :: (upperHex 4 c.toNat ++ tail)) = _
      rw [scanQuoted, hread]
      show scanQuoted fuel (Char.ofNat c.toNat :: done) _ = _
      rw [Char.ofNat_toNat, hdrop]
    | false =>
      show scanQuoted (fuel + 1) done (c :: tail) = _
      rw [scanQuoted]
      · rw [if_neg (by simp [hc])]
      · exact hc.1
      · exact hc.2.1

theorem scanQuoted_escaped (rest done cs : List Char) {fuel : Nat} (hfuel : cs.length < fuel) :
    scanQuoted fuel done (cs.flatMap escapeChar ++ '"' :: rest)
      = .ok (.string (String.ofList (done.reverse ++ cs)) false, rest) := by
  induction cs generalizing fuel done with
  | nil =>
    obtain ⟨fuel, rfl⟩ := Nat.exists_eq_succ_of_ne_zero (Nat.ne_zero_of_lt hfuel)
    rw [List.flatMap_nil, List.nil_append, scanQuoted, List.append_nil]
  | cons c cs ih =>
    obtain ⟨fuel, rfl⟩ := Nat.exists_eq_succ_of_ne_zero (Nat.ne_zero_of_lt hfuel)
    rw [List.flatMap_cons, List.append_assoc, scanQuoted_escapeChar, ih _ (Nat.lt_of_succ_lt_succ hfuel),
      List.reverse_cons, List.append_assoc]
    rfl

theorem head?_escapeChar (c : Char) : (escapeChar c).head?.any (· != '"') = true := by
  unfold escapeChar
  cases h : escapeLetter? c with
  | some d => rfl
  | none =>
    have hc : c ≠ '"' := by
      rintro rfl
      cases h
    cases hcontrol : isControl c with
    | true => rfl
    | false => simpa using hc

theorem length_le_escaped (cs : List Char) : cs.length ≤ (cs.flatMap escapeChar).length := by
  induction cs with
  | nil => exact Nat.le_refl _
  | cons c cs ih =>
    have hne : escapeChar c ≠ [] := by
      intro hnil
      have hhead := head?_escapeChar c
      rw [hnil] at hhead
      cases hhead
    have hpos := List.length_pos_of_ne_nil hne
    rw [List.flatMap_cons, List.length_append, List.length_cons]
    omega

theorem escaped_ne_quotes (hrest : Apart rest) (cs r : List Char) :
    cs.flatMap escapeChar ++ '"' :: rest ≠ '"' :: '"' :: r := by
  intro heq
  cases cs with
  | nil =>
    obtain rfl := (List.cons.inj heq).2
    exact (hrest '"' rfl).2.2 rfl
  | cons c cs =>
    have hhead := head?_escapeChar c
    cases he : escapeChar c with
    | nil =>
      rw [he] at hhead
      cases hhead
    | cons d ds =>
      rw [he] at hhead
      rw [List.flatMap_cons, he] at heq
      obtain rfl := (List.cons.inj heq).1
      cases hhead

theorem starts_quote (s : String) (hrest : Apart rest) :
    Starts ((quote s).toList ++ rest) (.string s false) rest := by
  refine starts_of_scanOne ?_ (by intro hl; cases hl)
  have htext : (quote s).toList ++ rest = '"' :: (s.toList.flatMap escapeChar ++ '"' :: rest) := by
    rw [quote, String.toList_ofList, List.cons_append, List.cons_append, List.append_assoc]
    rfl
  have hfuel : s.toList.length < (s.toList.flatMap escapeChar ++ '"' :: rest).length + 1 := by
    have hle := length_le_escaped s.toList
    rw [List.length_append]
    omega
  have hread := scanQuoted_escaped rest [] s.toList hfuel
  rw [List.reverse_nil, List.nil_append, String.ofList_toList] at hread
  rw [htext, skip_of_other (by decide) (by decide), scanOne, hread]
  -- Three quotes would open a block.
  exact fun r heq => escaped_ne_quotes hrest _ _ heq

end Subgraph.Token
