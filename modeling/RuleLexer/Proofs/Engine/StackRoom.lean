import RuleLexer.Proofs.Engine.Exchange

/-!
# Limits that are never met

The limit on the height of a stack is asked for at one place only: where a state is pushed. As long
as every push finds room, the limit might as well be higher. Nothing is said of engines that run
another table of the library, which has a limit of its own.

## Main result

`tokenizeFrom_unhindered`: if no push is dropped, a higher limit makes no difference that can be
seen.
-/
namespace RuleLexer

/-- The states that a transition pushes, one after the other, where a state is on top. -/
def Transition.pushes (top : String) : Transition → List String
  | .stay | .pop _ => []
  | .push state => [state]
  | .pushCurrent => [top]
  | .pushAll states => states

namespace StateStack

variable {stack : StateStack} {low high : Nat} {states : List String}

/-- States can be pushed one after the other, and each of them finds the stack below its limit. -/
def HasRoom (limit : Nat) : StateStack → List String → Prop
  | _, [] => True
  | stack, state :: states => stack.height < limit ∧ HasRoom limit (stack.push limit state) states

instance decidableHasRoom (limit : Nat) :
    (stack : StateStack) → (states : List String) → Decidable (HasRoom limit stack states)
  | _, [] => .isTrue trivial
  | stack, state :: states =>
    have := decidableHasRoom limit (stack.push limit state) states
    inferInstanceAs (Decidable (_ ∧ _))

theorem push_eq_of_lt (room : stack.height < low) (le : low ≤ high) (state : String) :
    stack.push high state = stack.push low state := by
  unfold push
  rw [if_pos room, if_pos (by omega)]

theorem foldl_push_eq (room : HasRoom low stack states) (le : low ≤ high) :
    states.foldl (push high) stack = states.foldl (push low) stack := by
  induction states generalizing stack with
  | nil => rfl
  | cons state states ih =>
    rw [List.foldl_cons, List.foldl_cons, push_eq_of_lt room.1 le, ih room.2]

/-- A transition whose pushes find room does the same with a higher limit. -/
theorem apply_eq_of_hasRoom {next : Transition} (room : HasRoom low stack (next.pushes stack.top))
    (le : low ≤ high) : stack.apply high next = stack.apply low next := by
  cases next with
  | stay => rfl
  | push state => exact push_eq_of_lt room.1 le state
  | pushCurrent => exact push_eq_of_lt room.1 le stack.top
  | pop count => rfl
  | pushAll states => exact foldl_push_eq room le

end StateStack

/-- The same table with another limit on the height of the stack. -/
def RuleTable.withMaxStackDepth (limit : Nat) (table : RuleTable) : RuleTable :=
  table.withRunOptions { table.options.run with maxStackDepth := limit }

theorem RuleTable.hosts_withMaxStackDepth (table : RuleTable) (limit : Nat) :
    table.Hosts (table.withMaxStackDepth limit) :=
  ⟨fun _ known => known, rfl, rfl⟩

namespace Engine

variable {engine : Engine} {high : Nat}

/-- The next step drops no push. -/
def Unhindered (engine : Engine) : Prop :=
  ∀ firing ∈ engine.firing?,
    StateStack.HasRoom engine.table.options.run.maxStackDepth engine.stack
      (firing.1.next.pushes engine.stack.top)

instance : Decidable engine.Unhindered :=
  inferInstanceAs (Decidable (∀ firing ∈ engine.firing?, _))

/-- A higher limit suits an engine whose next step drops no push. -/
theorem Unhindered.suits (unhindered : engine.Unhindered)
    (le : engine.table.options.run.maxStackDepth ≤ high) :
    engine.Suits (engine.table.withMaxStackDepth high) := by
  refine ⟨rfl, ?_⟩
  intro rule found fires
  exact StateStack.apply_eq_of_hasRoom (unhindered _ fires) le

end Engine

/-- **Room on the stack.** Tokenize a text with a table that has been built, and suppose that no
engine that runs this table, be it the first one or one that has come about by handing text to the
table itself, ever drops a push. Then with a higher limit on the height of the stack, and the same
options otherwise, every call gives the same token and leaves the same cursor and the same stack. -/
theorem tokenizeFrom_unhindered {library : Library} {table : RuleTable} (run : RunOptions)
    {low high : Nat} {text : List Char} {state : String} (built : table.BuiltFrom library)
    (le : low ≤ high)
    (unhindered : ∀ engine, Engine.ReachesOwn library
      (.start (table.withRunOptions { run with maxStackDepth := low }) text state 0) engine →
        engine.after ≠ [] → engine.Unhindered) :
    ((table.withRunOptions { run with maxStackDepth := low }).tokenizeFrom library text
      state).Equivalent
      ((table.withRunOptions { run with maxStackDepth := high }).tokenizeFrom library text
        state) := by
  -- The two tables differ in the limit, which is asked for by transitions alone.
  let limited := table.withRunOptions { run with maxStackDepth := low }
  apply Tokens.equivalent_of_suits (built.closed.withRunOptions _)
    (limited.hosts_withMaxStackDepth high)
  intro engine reached nonempty
  have runs : engine.table = limited := reached.table_eq
  have le : engine.table.options.run.maxStackDepth ≤ high := runs ▸ le
  have suits := (unhindered engine reached nonempty).suits le
  rwa [runs] at suits

/-- What stands in angle brackets is handed to the table itself, and round brackets are counted on
the stack, which is as high as it may be while one of them is open. -/
theorem tokenizeFrom_unhindered_of_brackets :
    let brackets : TableDef := ⟨"brackets", {}, [
      ⟨"root", [.staying "[a-z]+" (.token .name),
        .rule "\\(" (.token .punctuation) (.pushAll ["group"]),
        .staying "(<)([^>]*)(>)"
          (.byGroups [.kind .operator, .delegate ⟨.this, none⟩, .kind .operator])]⟩,
      ⟨"group", [.rule "\\)" (.token .punctuation) (.pop 1), .includeState "root"]⟩]⟩
    let text := "(a)<(b)>(".toList
    ∃ table, brackets.build [] = .ok table ∧
      let low := table.withRunOptions { maxStackDepth := 2 }
      let high := table.withRunOptions { maxStackDepth := 1024 }
      (∀ engine, Engine.ReachesOwn [] (.start low text "root" 0) engine → engine.after ≠ [] →
        engine.Unhindered) ∧
      (low.tokenizeFrom [] text "root").Equivalent (high.tokenizeFrom [] text "root") := by
  intro brackets text
  obtain ⟨table, done, checked⟩ : ∃ table, brackets.build [] = .ok table ∧
      (Engine.start (table.withRunOptions { maxStackDepth := 2 }) text "root" 0).holdsWithin []
        (fun engine => engine.Unhindered) 10 :=
    ⟨_, rfl, by decide +kernel⟩
  have unhindered : ∀ engine, Engine.ReachesOwn []
      (.start (table.withRunOptions { maxStackDepth := 2 }) text "root" 0) engine →
        engine.after ≠ [] → engine.Unhindered := by
    intro engine reached nonempty
    simpa using reached.reaches.holds checked nonempty
  have built := RuleTable.builtFrom_of_build done
  exact ⟨table, done, unhindered,
    tokenizeFrom_unhindered {} built (by decide : 2 ≤ 1024) unhindered⟩

end RuleLexer
