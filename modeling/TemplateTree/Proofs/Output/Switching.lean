import TemplateTree.Proofs.Sections.LineEndings

/-!
# Switching line endings

Bringing a text to one style and then to the other one loses nothing but the difference
between the two kinds of line endings: line feeds, all other characters, and the carriage
returns that stand alone come through both ways.
-/

namespace TemplateTree.Newline

variable {style : Newline} {t before after : Text}

theorem filter_toLf (t : Text) : (toLf t).filter (· ≠ '\r') = t.filter (· ≠ '\r') := by
  fun_induction toLf t with
  | case1 => rfl
  | case2 r ih => simpa using ih
  | case3 c r hother ih => rw [List.filter_cons, List.filter_cons, ih]

theorem filter_addReturns (t : Text) :
    (addReturns t).filter (· ≠ '\r') = t.filter (· ≠ '\r') := by
  fun_induction addReturns t with
  | case1 => rfl
  | case2 r ih => simpa using ih
  | case3 c r hc ih => rw [List.filter_cons, List.filter_cons, ih]

/-- No style changes anything but carriage returns. -/
theorem filter_apply (style : Newline) (t : Text) :
    (style.apply t).filter (· ≠ '\r') = t.filter (· ≠ '\r') := by
  cases style with
  | lf => exact filter_toLf t
  | crlf => exact (filter_addReturns _).trans (filter_toLf t)

theorem count_feed_apply (style : Newline) (t : Text) :
    (style.apply t).count '\n' = t.count '\n' := by
  have hfilter := congrArg (List.count '\n') (filter_apply style t)
  rwa [List.count_filter (by decide), List.count_filter (by decide)] at hfilter

/-- A carriage return with no line feed after it parts a text in two. -/
theorem toLf_append (h : after.head? ≠ some '\n') :
    toLf (before ++ '\r' :: after) = toLf before ++ '\r' :: toLf after := by
  fun_induction toLf before with
  | case1 => exact toLf_cons fun _ => h
  | case2 r ih => rw [List.cons_append, List.cons_append, toLf, ih, List.cons_append]
  | case3 c r hother ih =>
      have hnext : c = '\r' → (r ++ '\r' :: after).head? ≠ some '\n' := by
        rintro rfl hfeed
        cases r with
        | nil => simp at hfeed
        | cons d r =>
            obtain rfl : d = '\n' := by simpa using hfeed
            exact hother r rfl rfl
      rw [List.cons_append, toLf_cons hnext, ih, List.cons_append]

theorem apply_append (h : after.head? ≠ some '\n') :
    style.apply (before ++ '\r' :: after) = style.apply before ++ '\r' :: style.apply after := by
  cases style with
  | lf => exact toLf_append h
  | crlf =>
      rw [apply, toLf_append h, addReturns_append, addReturns_cons (by decide)]
      rfl

theorem lf_apply_crlf (t : Text) : lf.apply (crlf.apply t) = lf.apply t :=
  toLf_addReturns (toLf t)

/-- Carriage returns that come with line feeds do not matter, and all others stay where they
are. -/
theorem apply_lossless (t : Text) :
    lf.apply (crlf.apply t) = lf.apply t ∧ crlf.apply (crlf.apply t) = crlf.apply t ∧
    (∀ u, crlf.apply t = crlf.apply u → lf.apply t = lf.apply u) ∧
    (∀ style : Newline, (style.apply t).count '\n' = t.count '\n' ∧
      (style.apply t).filter (· ≠ '\r') = t.filter (· ≠ '\r')) ∧
    ∀ (style : Newline) (before after : Text), t = before ++ '\r' :: after →
      after.head? ≠ some '\n' →
      style.apply t = style.apply before ++ '\r' :: style.apply after := by
  refine ⟨lf_apply_crlf t, congrArg addReturns (lf_apply_crlf t), fun u heq => ?_,
    fun style => ⟨count_feed_apply style t, filter_apply style t⟩, ?_⟩
  · rw [← lf_apply_crlf t, heq, lf_apply_crlf u]
  · rintro style before after rfl h
    exact apply_append h

/-- Of three carriage returns only the last one goes with the line feed. -/
theorem apply_lossless_three :
    lf.apply ['a', '\r', '\r', '\r', '\n', '\n'] = ['a', '\r', '\r', '\n', '\n'] ∧
    crlf.apply ['a', '\r', '\r', '\r', '\n', '\n'] =
      lf.apply ['a', '\r'] ++ '\r' :: crlf.apply ['\r', '\n', '\n'] ∧
    lf.apply ['b', '\r', '\n'] = lf.apply ['b', '\n'] := by
  obtain ⟨-, -, -, -, hkeeps⟩ := apply_lossless ['a', '\r', '\r', '\r', '\n', '\n']
  obtain ⟨-, -, hsame, -⟩ := apply_lossless ['b', '\r', '\n']
  have hlf := hkeeps lf ['a', '\r'] ['\r', '\n', '\n'] rfl (by decide)
  have hcrlf := hkeeps crlf ['a', '\r'] ['\r', '\n', '\n'] rfl (by decide)
  exact ⟨hlf, hcrlf, hsame ['b', '\n'] rfl⟩

end TemplateTree.Newline
