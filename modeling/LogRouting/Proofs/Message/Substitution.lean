import LogRouting.Proofs.Message.Pieces

namespace LogRouting

def Value.isNull : Value → Bool
  | .null => true
  | _ => false

namespace Message

variable {render : Value → List Char} {params : List Value} {text : List Char} {v : Value} {i j k : Nat}

def rendering (render : Value → List Char) : Value → List Char
  | .null => "null".toList
  | v => render v

def fillEagerly (render : Value → List Char) (params : List (Value × Nat)) (text : List Char) : List Char :=
  params.foldl (fun text p => Text.replaceAll (token p.2) (rendering render p.1) text) text

/-- The text after the steps of so many parameters. -/
def textAfter (render : Value → List Char) (params : List Value) (text : List Char) (i : Nat) : List Char :=
  (fill render (params.take i) text).text

theorem replacement_eq (render : Value → List Char) (v : Value) :
    replacement render v = (rendering render v, !v.isNull) := by
  cases v <;> rfl

theorem rendering_of_not_null (visible : v.isNull = false) : rendering render v = render v := by
  cases v with
  | null => cases visible
  | _ => rfl

theorem fillFrom_cons (render : Value → List Char) (i : Nat) (v : Value) (vs : List Value) (text : List Char) :
    fillFrom render i (v :: vs) text =
      let rest := fillFrom render (i + 1) vs (Text.replaceAll (token i) (rendering render v) text)
      ⟨rest.text, (if !v.isNull && token i <:+: text then [(i, render v)] else []) ++ rest.asked⟩ := by
  rw [fillFrom, replacement_eq]
  by_cases found : token i <:+: text
  · rw [if_pos (Text.occurs_iff.2 found)]
    cases visible : v.isNull with
    | true => simp
    | false => simp [found, rendering_of_not_null visible]
  · rw [if_neg (by rwa [Text.occurs_iff]), Text.replaceAll_of_not_infix found]
    simp [found]

theorem text_fillFrom_cons (render : Value → List Char) (i : Nat) (v : Value) (vs : List Value) (text : List Char) :
    (fillFrom render i (v :: vs) text).text =
      (fillFrom render (i + 1) vs (Text.replaceAll (token i) (rendering render v) text)).text := by
  rw [fillFrom_cons]

theorem text_fillFrom (render : Value → List Char) (i : Nat) (params : List Value) (text : List Char) :
    (fillFrom render i params text).text = fillEagerly render (params.zipIdx i) text := by
  induction params generalizing i text with
  | nil => rfl
  | cons v vs ih =>
    rw [text_fillFrom_cons, List.zipIdx_cons, fillEagerly, List.foldl_cons]
    exact ih _ _

theorem asked_fillFrom (render : Value → List Char) (i : Nat) (params : List Value) (text : List Char) :
    (fillFrom render i params text).asked = ((params.zipIdx i).filter fun p =>
      !p.1.isNull && token p.2 <:+: (fillFrom render i (params.take (p.2 - i)) text).text).map
        fun p => (p.2, render p.1) := by
  induction params generalizing i text with
  | nil => rfl
  | cons v vs ih =>
    -- what the later steps find is found after the first step
    have later : ∀ p ∈ vs.zipIdx (i + 1),
        (!p.1.isNull && decide (token p.2 <:+: (fillFrom render i ((v :: vs).take (p.2 - i)) text).text)) =
          (!p.1.isNull && decide (token p.2 <:+: (fillFrom render (i + 1) (vs.take (p.2 - (i + 1)))
            (Text.replaceAll (token i) (rendering render v) text)).text)) := by
      intro p mem
      have beyond := List.le_snd_of_mem_zipIdx mem
      have first : p.2 - i = p.2 - (i + 1) + 1 := by omega
      rw [first, List.take_succ_cons, text_fillFrom_cons]
    rw [List.zipIdx_cons, List.filter_cons, List.filter_congr later, fillFrom_cons]
    simp only [ih, Nat.sub_self, List.take_zero, fillFrom]
    split <;> rfl

/-- The text of a message does not depend on which tokens are there to be found, and the renderer is asked for
exactly those parameters whose token is there when their turn comes. -/
theorem fill_eq_eager (render : Value → List Char) (params : List Value) (text : List Char) :
    (fill render params text).text = fillEagerly render params.zipIdx text ∧
    (fill render params text).asked =
      (params.zipIdx.filter fun p => !p.1.isNull && token p.2 <:+: textAfter render params text p.2).map
        (fun p => (p.2, render p.1)) ∧
    ((fill render params text).asked.map (·.1)).Pairwise (· < ·) := by
  have asked := asked_fillFrom render 0 params text
  refine ⟨text_fillFrom render 0 params text, asked, ?_⟩
  rw [fill, asked, List.map_map]
  have increasing : (params.zipIdx.map (·.2)).Pairwise (· < ·) := by
    rw [List.zipIdx_map_snd]
    exact List.pairwise_lt_range'
  exact increasing.sublist (List.filter_sublist.map _)

theorem textAfter_of_length_le (h : params.length ≤ i) :
    textAfter render params text i = (fill render params text).text := by
  rw [textAfter, List.take_of_length_le h]

theorem textAfter_succ (param : params[i]? = some v) : textAfter render params text (i + 1) =
    Text.replaceAll (token i) (rendering render v) (textAfter render params text i) := by
  obtain ⟨lt, rfl⟩ := List.getElem?_eq_some_iff.1 param
  rw [textAfter, textAfter, fill, fill, text_fillFrom, text_fillFrom, List.take_succ_eq_append_getElem lt,
    List.zipIdx_append]
  simp [fillEagerly, Nat.min_eq_left (Nat.le_of_lt lt)]

theorem occurrences_textAfter_succ (ne : i ≠ j) : Text.occurrences (token j) (textAfter render params text i) ≤
    Text.occurrences (token j) (textAfter render params text (i + 1)) := by
  cases param : params[i]? with
  | none =>
    have done := List.getElem?_eq_none_iff.1 param
    rw [textAfter_of_length_le done, textAfter_of_length_le (Nat.le_succ_of_le done)]
  | some v =>
    rw [textAfter_succ param]
    exact occurrences_le_replaceAll ne _ _

theorem occurrences_textAfter_le (le : i ≤ k) (others : ∀ l, i ≤ l → l < k → l ≠ j) :
    Text.occurrences (token j) (textAfter render params text i) ≤
      Text.occurrences (token j) (textAfter render params text k) := by
  induction k, le using Nat.le_induction with
  | base => exact Nat.le_refl _
  | succ k le ih =>
    exact Nat.le_trans (ih fun l low high => others l low (by omega))
      (occurrences_textAfter_succ (others k le (by omega)))

/-- No step but its own takes the tokens of an index away, so an index without a parameter stays as it is written,
and what a parameter brings of its own token is not expanded again. -/
theorem own_step_removes_tokens (render : Value → List Char) (params : List Value) (text : List Char) (j : Nat) :
    (∀ i, i ≠ j → Text.occurrences (token j) (textAfter render params text i) ≤
      Text.occurrences (token j) (textAfter render params text (i + 1))) ∧
    (params.length ≤ j →
      Text.occurrences (token j) text ≤ Text.occurrences (token j) (fill render params text).text) ∧
    (∀ v, params[j]? = some v →
      Text.occurrences (token j) (textAfter render params text j) * Text.occurrences (token j) (rendering render v) ≤
        Text.occurrences (token j) (fill render params text).text) := by
  have done := @textAfter_of_length_le render params text params.length (Nat.le_refl _)
  refine ⟨fun i ne => occurrences_textAfter_succ ne, fun missing => ?_, fun v param => ?_⟩
  · rw [← done]
    exact occurrences_textAfter_le (Nat.zero_le _) fun l _ lt => by omega
  · obtain ⟨lt, -⟩ := List.getElem?_eq_some_iff.1 param
    have own := mul_occurrences_le_replaceAll j (rendering render v) (textAfter render params text j)
    rw [← textAfter_succ param] at own
    rw [← done]
    exact Nat.le_trans own (occurrences_textAfter_le lt fun l low _ => by omega)

/-- Both tokens of the first parameter survive in both places, and so does the token that has no parameter. -/
theorem own_step_removes_tokens_twice :
    let params : List Value := [.string (String.ofList (token 0 ++ token 1 ++ token 0)), .string "x"]
    let text := token 0 ++ token 5 ++ token 0
    params.length ≤ 5 ∧ params[0]? = some (.string (String.ofList (token 0 ++ token 1 ++ token 0))) ∧
    1 ≤ Text.occurrences (token 5) (fill (Message.render none) params text).text ∧
    2 * 2 ≤ Text.occurrences (token 0) (fill (Message.render none) params text).text := by
  intro params text
  obtain ⟨-, missing, -⟩ := own_step_removes_tokens (Message.render none) params text 5
  obtain ⟨-, -, own⟩ := own_step_removes_tokens (Message.render none) params text 0
  have first : params[0]? = some (.string (String.ofList (token 0 ++ token 1 ++ token 0))) := rfl
  exact ⟨by decide, first, missing (by decide), own _ first⟩

theorem text_fillFrom_eq_subst (inert : ∀ v ∈ params, Inert (rendering render v)) :
    (fillFrom render i params text).text =
      subst (fun k => if k < i then none else params[k - i]?.map (rendering render)) text := by
  induction params generalizing i text with
  | nil => simp [fillFrom, subst_none]
  | cons v vs ih =>
    rw [List.forall_mem_cons] at inert
    have first (k : Nat) (new : List Char) (text : only i (rendering render v) k = some new) : Inert new := by
      obtain ⟨-, same⟩ := Option.ite_none_right_eq_some.1 text
      exact Option.some.inj same ▸ inert.1
    rw [text_fillFrom_cons, ih inert.2, replaceAll_token, subst_subst first]
    congr 1
    funext k
    rw [only]
    rcases Nat.lt_trichotomy k i with below | rfl | above
    · have beyond : k < i + 1 := by omega
      simp [Nat.ne_of_lt below, below, beyond]
    · simp
    · have later : k - i = k - (i + 1) + 1 := by omega
      have within : ¬ k < i + 1 := by omega
      have within' : ¬ k < i := by omega
      simp [Nat.ne_of_gt above, within, within', later]

/-- Where the texts of parameters become no part of a token, the order of the steps does not matter: all
numbers that have a parameter give way in one pass, and all else is copied. -/
theorem fill_eq_subst (render : Value → List Char) (params : List Value) (text : List Char)
    (inert : ∀ v ∈ params, Inert (rendering render v)) :
    (fill render params text).text = subst (fun i => params[i]?.map (rendering render)) text := by
  rw [fill, text_fillFrom_eq_subst inert]
  simp

/-- Tokens of one and of two digits, one within braces, one with a leading zero and one without a parameter. -/
theorem fill_eq_subst_nested :
    let params : List Value := .string "x" :: .null :: List.replicate 9 (.bool true)
    let text := token 1 ++ token 10 ++ '\x7b' :: token 0 ++ "1\x7d\x7b01\x7d".toList ++ token 11
    (∀ v ∈ params, Inert (rendering (Message.render none) v)) ∧
    (fill (Message.render none) params text).text = "nulltrue\x7bx1\x7d\x7b01\x7d".toList ++ token 11 := by
  intro params text
  have inert : ∀ v ∈ params, Inert (rendering (Message.render none) v) := by decide
  exact ⟨inert, (fill_eq_subst _ params text inert).trans (by decide)⟩

end Message
end LogRouting
