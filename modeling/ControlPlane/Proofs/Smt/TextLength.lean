import ControlPlane.Smt.Term

/-!
# Counting the text of a term against a budget

Before a term is inlined, the encoder asks whether its SMT-LIB text fits a limit. It does not
build the text: it counts the bytes the printer would write, piece by piece, and stops at the
first piece that overflows the budget. The count is exact: it spends the byte size of the whole
text and fails exactly when the text is longer than the budget (`spendText_eq_spend`), so the
bounded test agrees with measuring the printed text (`bounded_count_agrees_with_text_length`).

The printer itself writes into an accumulator; `renderInto_eq_append` says that it only appends.
-/

namespace ControlPlane

namespace Term

theorem renderInto_eq_append :
    (∀ acc t, renderInto acc t = acc ++ render t) ∧
    (∀ acc xs, renderArgs acc xs = acc ++ renderArgs "" xs) := by
  -- the motives ignore the accumulator the induction fixes and quantify over every one
  refine (renderInto.mutual_induct (fun _ t => ∀ acc, renderInto acc t = acc ++ render t)
    (fun _ xs => ∀ acc, renderArgs acc xs = acc ++ renderArgs "" xs) ?neg ?conj ?disj ?imp ?cond
    ?eq ?lt ?le ?add ?sub ?bvAnd ?bvUle ?leaf ?nil ?cons).imp
    (fun h acc t => h acc t acc) (fun h acc xs => h acc xs acc)
  case neg =>
    intro _ _ a ha acc
    simp only [render, renderInto]
    rw [ha (acc ++ _), ha ("" ++ _)]
    simp only [String.append_assoc, String.empty_append]
  case conj | disj =>
    intro _ _ xs hxs acc
    simp only [render, renderInto]
    rw [hxs (acc ++ _), hxs ("" ++ _)]
    simp only [String.append_assoc, String.empty_append]
  case imp | eq | lt | le | add | sub | bvAnd | bvUle =>
    intro _ _ a b ha hb acc
    simp only [render, renderInto]
    rw [hb (_ ++ " "), hb (_ ++ " "), ha (acc ++ _), ha ("" ++ _)]
    simp only [String.append_assoc, String.empty_append]
  case cond =>
    intro _ _ c t e hc ht he acc
    simp only [render, renderInto]
    rw [he (_ ++ " "), he (_ ++ " "), ht (_ ++ " "), ht (_ ++ " "), hc (acc ++ _), hc ("" ++ _)]
    simp only [String.append_assoc, String.empty_append]
  case leaf =>
    -- a literal or a variable: the printer writes its leaf text
    intro _ t h1 h2 h3 h4 h5 h6 h7 h8 h9 h10 h11 h12 acc
    have leaf := (renderInto.eq_13 · t h1 h2 h3 h4 h5 h6 h7 h8 h9 h10 h11 h12)
    rw [render, leaf, leaf, String.empty_append]
  case nil =>
    intro _ acc
    simp [renderArgs]
  case cons =>
    intro _ x xs hx hxs acc
    simp only [renderArgs]
    rw [hxs (renderInto _ x), hxs (renderInto _ x), hx (acc.push ' '), hx ("".push ' ')]
    simp only [String.push_eq_append, String.append_assoc, String.empty_append]

@[simp] theorem spend_bind_spend (b m n : Nat) :
    (spend b m >>= fun x => spend x n) = spend b (m + n) := by
  unfold spend
  by_cases hm : m ≤ b
  · by_cases hn : n ≤ b - m
    · simp [hm, hn, show m + n ≤ b by omega, Nat.sub_sub]
    · simp [hm, hn, show ¬m + n ≤ b by omega]
  · simp [hm, show ¬m + n ≤ b by omega]

@[simp] theorem spend_zero (b : Nat) : spend b 0 = some b := by
  simp [spend]

/-- Counting the text of a term (of an argument list, each after a blank) against a budget spends
exactly the byte size of the text the printer writes. -/
theorem spendText_eq_spend :
    (∀ b t, spendText b t = spend b (render t).utf8ByteSize) ∧
    (∀ b xs, spendArgs b xs = spend b (renderArgs "" xs).utf8ByteSize) := by
  refine spendText.mutual_induct (fun b t => spendText b t = spend b (render t).utf8ByteSize)
    (fun b xs => spendArgs b xs = spend b (renderArgs "" xs).utf8ByteSize) ?neg ?conj ?disj ?imp
    ?cond ?eq ?lt ?le ?add ?sub ?bvAnd ?bvUle ?leaf ?nil ?cons
  case neg =>
    intro b _ a ha
    rw [render, renderInto, renderInto_eq_append.1]
    simp only [spendText, ha, spend_bind_spend, String.utf8ByteSize_append]
    -- the opening and closing pieces have the byte sizes the count spends
    congr 1
  case conj | disj =>
    intro b _ xs hxs
    rw [render, renderInto, renderInto_eq_append.2]
    simp only [spendText, hxs, spend_bind_spend, String.utf8ByteSize_append]
    congr 1
  case imp | eq | lt | le | add | sub | bvAnd | bvUle =>
    intro b _ a c ha hc
    rw [render, renderInto, renderInto_eq_append.1, renderInto_eq_append.1]
    simp only [spendText, spendBin, ha, hc, spend_bind_spend, String.utf8ByteSize_append]
    congr 1
  case cond =>
    intro b _ c t e hc ht he
    rw [render, renderInto, renderInto_eq_append.1, renderInto_eq_append.1, renderInto_eq_append.1]
    simp only [spendText, hc, ht, he, spend_bind_spend, String.utf8ByteSize_append]
    congr 1
  case leaf =>
    intro b t h1 h2 h3 h4 h5 h6 h7 h8 h9 h10 h11 h12
    rw [spendText.eq_13 b t h1 h2 h3 h4 h5 h6 h7 h8 h9 h10 h11 h12, render,
      renderInto.eq_13 "" t h1 h2 h3 h4 h5 h6 h7 h8 h9 h10 h11 h12, String.empty_append]
  case nil =>
    intro b
    simp [spendArgs, renderArgs]
  case cons =>
    intro b x xs hx hxs
    rw [renderArgs, renderInto_eq_append.2, renderInto_eq_append.1]
    simp only [spendArgs, hx, hxs, spend_bind_spend, String.utf8ByteSize_append]
    congr 1

/-- The bounded test of a term's text against a limit holds exactly when the printed text has at
most `limit` bytes. -/
theorem bounded_count_agrees_with_text_length (t : Term) (limit : Nat) :
    t.textWithin limit = decide ((toString t).utf8ByteSize ≤ limit) := by
  have hcount := spendText_eq_spend.1 limit t
  rw [textWithin, hcount, spend]
  split <;> simp_all [toString]

example : (Term.cond 3 (.var "c" .bool) (.add 2 (.var "x" .int) (.int 2)) (.int (-1))).textWithin 21
      = true ∧
    (Term.cond 3 (.var "c" .bool) (.add 2 (.var "x" .int) (.int 2)) (.int (-1))).textWithin 20
      = false := by
  decide

end Term

end ControlPlane
