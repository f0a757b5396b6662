import LogRouting.Message.Parameter
import LogRouting.Proofs.Json.RoundTrip
import LogRouting.Proofs.Message.Rendering

namespace LogRouting.Message

variable {v : Value}

theorem plain_of_not_string (other : ∀ s, v ≠ .string s) : plain v = Json.print v := by
  cases v with
  | string s => exact absurd rfl (other s)
  | _ => rfl

/-- Without a limit, a rendered parameter stands for its value. -/
theorem parameter_rendered (exact : Json.Exact v) (shallow : Json.nesting v < 128) (other : ∀ s, v ≠ .string s) :
    parameter (rendered none v) = v := by
  have text : rendered none v = String.ofList (Json.print v) :=
    congrArg String.ofList (plain_of_not_string other)
  rw [parameter, text, Json.read?_print exact (Nat.le_of_lt_succ shallow)]
  rfl

/-- Both ends of the whole numbers, a key and a member full of escapes, and an empty object as deep as can be. -/
theorem parameter_rendered_deep :
    let escapes := "\"\\/\x08\x1f\x7f\n\u2028𝄞"
    let ends : Value := .array [.int (-Int.pow 2 63), .int (Int.pow 2 64 - 1), .string escapes]
    let deep : Value := Nat.repeat (fun v => .array [.null, v]) 125 (.object [])
    let v := Value.ofMembers [("z", ends), (escapes, deep), ("", .bool false)]
    (Json.Exact v ∧ Json.nesting v = 127 ∧ ∀ s, v ≠ .string s) ∧ parameter (rendered none v) = v := by
  intro escapes ends deep v
  have ends_exact : Json.Exact ends := by
    refine .array ?_
    simp only [List.forall_mem_cons]
    exact ⟨.int (by decide), .int (by decide), .string escapes, List.forall_mem_nil _⟩
  have deep_exact (n : Nat) : Json.Exact (Nat.repeat (fun v => .array [.null, v]) n (.object [])) := by
    induction n with
    | zero => exact .object .nil (List.forall_mem_nil _)
    | succ n ih => exact .array (List.forall_mem_cons.2 ⟨.null, List.forall_mem_singleton.2 ih⟩)
  have exact : Json.Exact v := by
    refine .ofMembers ?_
    simp only [List.forall_mem_cons]
    exact ⟨ends_exact, deep_exact 125, .bool false, List.forall_mem_nil _⟩
  have nesting : Json.nesting v = 127 := by decide +kernel
  have other : ∀ s, v ≠ .string s := fun _ => Value.noConfusion
  exact ⟨⟨exact, nesting, other⟩, parameter_rendered exact (by rw [nesting]; decide) other⟩

end LogRouting.Message
