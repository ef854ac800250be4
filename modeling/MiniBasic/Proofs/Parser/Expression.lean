import MiniBasic.Proofs.Grammar.Layers
import MiniBasic.Proofs.Parser.Program

/-!
# Parsing an expression

A parser that reads an expression answers as one without a limit that goes down the layers of the
grammar (`expression_eq_layered`): with the same tree or the same error, and with the cursor at the
same place.  The only other answer is that the nesting is too deep, and it does not occur while
there are fewer tokens ahead than levels to open.
-/

namespace MiniBasic.Parser

open Grammar (Rule)

variable {α : Type}

/-- Rules that agree on the tokens ahead give the same answer. -/
theorem run_congr {parser : Parser} {rule other : Rule α}
    (same : rule parser.ahead = other parser.ahead) : parser.run rule = parser.run other := by
  rw [run, run, same]

/-- Whatever the tokens, the cursor and the levels that are open: unless the nesting is too deep, an
expression is read as by the layers, and it is not too deep where the tokens ahead are fewer than
the levels that may still be opened. -/
theorem expression_eq_layered (parser : Parser) :
    ((∀ error limit, parser.expression.1 = .error error → error.cause ≠ .nestingTooDeep limit) →
      parser.expression = parser.run Grammar.Layered.sum) ∧
    (parser.ahead.length < parser.room → parser.expression = parser.run Grammar.Layered.sum) := by
  constructor
  · intro notDeep
    refine run_congr (Grammar.expression_eq_sum_of_ne fun deep => ?_)
    have answer : parser.expression = _ := run_eq_error_iff.mpr ⟨_, _, Prod.ext deep rfl, rfl, rfl⟩
    exact notDeep _ nestingLimit (congrArg Prod.fst answer) (cause_tooDeep _)
  · intro enough
    exact run_congr (Grammar.expression_eq_sum enough)

/-- With two levels to open, `1 + 2` is read as by the layers, and past its last token both answer
that an expression is missing. -/
theorem expression_eq_layered_last :
    ((mk (unplaced [.number 1, .plus, .number 2]) 0 254).expression.1 =
        .ok (.binary (.num 1) .add (.num 2)) ∧
      (mk (unplaced [.number 1, .plus, .number 2]) 0 254).expression =
        (mk (unplaced [.number 1, .plus, .number 2]) 0 254).run Grammar.Layered.sum) ∧
    (mk (unplaced [.number 1, .plus, .number 2]) 4 0).ahead.length <
        (mk (unplaced [.number 1, .plus, .number 2]) 4 0).room ∧
      (mk (unplaced [.number 1, .plus, .number 2]) 4 0).expression =
        (mk (unplaced [.number 1, .plus, .number 2]) 4 0).run Grammar.Layered.sum := by
  have read : (mk (unplaced [.number 1, .plus, .number 2]) 0 254).expression.1 =
      .ok (.binary (.num 1) .add (.num 2)) := by
    have shaped : (Expr.binary (.num 1) .add (.num 2)).Shaped :=
      ⟨trivial, trivial, by decide, by decide⟩
    have reads := Grammar.readsIf_expression 2 shaped (Grammar.stops_nil 1)
    exact fst_run_eq_ok_iff.mpr (congrArg Prod.fst (reads.ok (by decide)))
  have enough : (mk (unplaced [.number 1, .plus, .number 2]) 4 0).ahead.length <
      (mk (unplaced [.number 1, .plus, .number 2]) 4 0).room := by decide
  refine ⟨⟨read, (expression_eq_layered _).1 ?_⟩, enough, (expression_eq_layered _).2 enough⟩
  intro error limit failed
  rw [read] at failed
  cases failed

end MiniBasic.Parser
