import RuleLexer.Proofs.Table.Building
import RuleLexer.Proofs.Table.Refusal

/-!
# Plain splicing

Included states can be spliced in by plain recursion: every inclusion is followed wherever it
stands, and the rules of a state are compiled again in every place that they are spliced into.
Nothing is kept but the path of the states under way, which finds cycles. Resolution keeps what it
has resolved and uses it without looking at the path, and still it comes to the same rules or to the
same error: what is kept has a flattening, so it leads back to no state of the path, and splicing it
again would succeed again.

The error is that of the first entry that fails when entries are followed depth first. It names the
state that the entry is written in, wherever that state is included.

## Main result

`TableDef.build_eq_spliced`: a build has the result of plain splicing, and its error is that of the
first entry that fails.
-/
namespace RuleLexer

namespace BuildContext

variable {context : BuildContext} {entries rest : List RuleDef} {rules : List Rule}
  {resolved later : Resolved} {state included : StateDef} {name target source : String}
  {action : Action} {next : Transition} {path : List String} {room : Nat} {error : TableError}
  {resolve : Resolved → StateDef → Except TableError (List Rule × Resolved)}

/-! ### The recursion -/

/-- The number of states that are not on a path. -/
def unvisited (context : BuildContext) (path : List String) : Nat :=
  (context.states.filter fun state => state.name ∉ path).length

theorem unvisited_lt (found : context.stateDef? target = some included)
    (fresh : included.name ∉ path) :
    context.unvisited (path ++ [included.name]) < context.unvisited path := by
  have narrowed : (context.states.filter fun state => state.name ∉ path ++ [included.name]) =
      (context.states.filter fun state => state.name ∉ path).filter
        fun state => state.name ≠ included.name := by
    rw [List.filter_filter]
    congr 1
    funext state
    simp [and_comm]
  rw [unvisited, unvisited, narrowed, List.length_filter_lt_length_iff_exists]
  exact ⟨included, List.mem_filter.mpr ⟨mem_of_stateDef? found, by simpa using fresh⟩, by simp⟩

/-- The error of a state that a path comes back to. -/
def cycleError (path : List String) (name : String) : TableError :=
  .circularInclude (path.dropWhile (· != name) ++ [name])

/-- The rules of entries of a state, which is the last one of a path, by plain recursion. -/
def splice (context : BuildContext) (path : List String) (state : String) (entries : List RuleDef) :
    Except TableError (List Rule) :=
  match entries with
  | [] => .ok []
  | .rule source action next :: rest => do
    let rule ← context.compileRule state source action next
    let rules ← context.splice path state rest
    return rule :: rules
  | .includeState target :: rest =>
    match _found : context.stateDef? target with
    | none => .error (.unknownState state target)
    | some included =>
      if _again : included.name ∈ path then .error (cycleError path included.name)
      else do
        let front ← context.splice (path ++ [included.name]) included.name included.entries
        let rules ← context.splice path state rest
        return front ++ rules
termination_by (context.unvisited path, entries.length)
decreasing_by
  · exact Prod.Lex.right _ (Nat.lt_succ_self _)
  · exact Prod.Lex.left _ _ (unvisited_lt _found _again)
  · exact Prod.Lex.right _ (Nat.lt_succ_self _)

/-- The rules of a state that a path has come to. -/
def spliceState (context : BuildContext) (path : List String) (state : StateDef) :
    Except TableError (List Rule) :=
  if state.name ∈ path then .error (cycleError path state.name)
  else context.splice (path ++ [state.name]) state.name state.entries

/-- The states of a table, one after the other. -/
def spliceStates (context : BuildContext) : List StateDef → Except TableError (List State)
  | [] => .ok []
  | state :: rest => do
    let rules ← context.spliceState [] state
    let states ← spliceStates context rest
    return ⟨state.name, rules⟩ :: states

theorem splice_nil : context.splice path name [] = .ok [] := by
  rw [splice]

theorem splice_rule :
    context.splice path name (.rule source action next :: rest) = (do
      let rule ← context.compileRule name source action next
      let rules ← context.splice path name rest
      return rule :: rules) := by
  rw [splice]

theorem splice_unknown (unknown : context.stateDef? target = none) :
    context.splice path name (.includeState target :: rest) =
      .error (.unknownState name target) := by
  rw [splice]
  split
  · rfl
  · next found => cases unknown.symm.trans found

theorem splice_includeState (found : context.stateDef? target = some included) :
    context.splice path name (.includeState target :: rest) = (do
      let front ← context.spliceState path included
      let rules ← context.splice path name rest
      return front ++ rules) := by
  rw [splice, spliceState]
  split
  · next unknown => cases found.symm.trans unknown
  · next other again =>
    cases found.symm.trans again
    split <;> rfl

/-! ### What is kept would be spliced again -/

/-- Entries with a flattening are spliced wherever the path leads to them, whatever comes after
them. -/
theorem splice_append_of_flattens (flat : context.Flattens entries rules)
    (leads : ∀ inner, .includeState inner ∈ entries →
      ∀ earlier ∈ path, Relation.TransGen context.Includes earlier inner) (name : String)
    (more : List RuleDef) :
    context.splice path name (entries ++ more) =
      (context.splice path name more).map (rules ++ ·) := by
  induction flat generalizing path name more with
  | nil =>
    rw [List.nil_append]
    cases context.splice path name more <;> rfl
  | rule compiled fits _ ih =>
    have taken : context.compileRule name _ _ _ = .ok _ :=
      compileRule_eq_ok_iff.mpr ⟨_, compiled, fits, rfl⟩
    rw [List.cons_append, splice_rule, taken, ih fun inner member => leads inner (.tail _ member)]
    cases context.splice path name more <;> rfl
  | @includeState target included _ front _ found head _ ihHead ihTail =>
    have reached := leads target List.mem_cons_self
    rw [← name_of_stateDef? found] at reached
    -- A path that has come to a state with a flattening has not been there before.
    have fresh : included.name ∉ path := fun member =>
      head.acyclic (known_of_stateDef? found) (reached _ member)
    have further : ∀ inner, .includeState inner ∈ included.entries →
        ∀ earlier ∈ path ++ [included.name],
          Relation.TransGen context.Includes earlier inner := by
      intro inner member earlier among
      have includes : context.Includes included.name inner :=
        ⟨included, known_of_stateDef? found, member⟩
      rcases List.mem_append.mp among with among | last
      · exact (reached earlier among).tail includes
      · exact List.mem_singleton.mp last ▸ .single includes
    have spliced : context.spliceState path included = .ok front := by
      have inner := ihHead further included.name []
      rw [List.append_nil, splice_nil] at inner
      rw [spliceState, if_neg fresh, inner]
      simp [Except.map]
    rw [List.cons_append, splice_includeState found, spliced,
      ihTail fun inner member => leads inner (.tail _ member)]
    cases context.splice path name more <;> simp [bind, Except.bind, Except.map, pure, Except.pure]

/-- From the entries of a state a path leads on to what they include. -/
theorem Leads.of_entries (leads : context.Leads path state.name) (known : context.Known state)
    (fresh : state.name ∉ path) :
    ∀ inner, .includeState inner ∈ state.entries →
      ∀ earlier ∈ path ++ [state.name], Relation.TransGen context.Includes earlier inner := by
  intro inner member
  exact (leads.snoc fresh (hasState_iff.mpr ⟨state, known⟩) ⟨state, known, member⟩).reaches

theorem spliceState_of_flattens (known : context.Known state)
    (leads : context.Leads path state.name) (flat : context.Flattens state.entries rules) :
    context.spliceState path state = .ok rules := by
  have fresh : state.name ∉ path := fun member => flat.acyclic known (leads.reaches _ member)
  have spliced := splice_append_of_flattens flat (leads.of_entries known fresh) state.name []
  rw [List.append_nil, splice_nil] at spliced
  rw [spliceState, if_neg fresh, spliced]
  simp [Except.map]

/-! ### Resolution has the result of splicing -/

/-- The entries of a state are expanded as they are spliced, if the states that they include are. -/
theorem expandEntries_eq_splice (within : entries ⊆ state.entries)
    (each : ∀ {resolved : Resolved} {included : StateDef}, context.Sound resolved →
      context.Known included → .includeState included.name ∈ state.entries →
        (resolve resolved included).map Prod.fst = context.spliceState path included)
    (keeps : ∀ {resolved later : Resolved} {included : StateDef} {rules : List Rule},
      context.Sound resolved → context.Known included →
        resolve resolved included = .ok (rules, later) → context.Sound later)
    (sound : context.Sound resolved) :
    (context.expandEntries state.name resolve resolved entries).map Prod.fst =
      context.splice path state.name entries := by
  induction entries generalizing resolved with
  | nil => exact splice_nil.symm
  | cons entry entries ih =>
    obtain ⟨here, rest⟩ := List.cons_subset.mp within
    cases entry with
    | rule source action next =>
      rw [splice_rule, ← ih rest sound, expandEntries_rule]
      cases context.compileRule state.name source action next with
      | error cause => rfl
      | ok rule =>
        cases context.expandEntries state.name resolve resolved entries <;> rfl
    | includeState target =>
      cases found : context.stateDef? target with
      | none =>
        rw [splice_unknown found, expandEntries_unknown found]
        rfl
      | some included =>
        obtain rfl := name_of_stateDef? found
        have known := known_of_stateDef? found
        rw [splice_includeState found, ← each sound known here, expandEntries_includeState found]
        cases head : resolve resolved included with
        | error cause => rfl
        | ok front =>
          have tail := ih rest (keeps sound known head)
          simp only [bind, Except.bind, Except.map, ← tail]
          cases context.expandEntries state.name resolve front.2 entries <;> rfl

/-- A state is resolved as it is spliced, unless it is new: what has been kept is what splicing it
again comes to. -/
theorem resolveWithin_eq_of_fresh (known : context.Known state)
    (leads : context.Leads path state.name) (sound : context.Sound resolved)
    (inner : resolved.lookup state.name = none → state.name ∉ path →
      (context.resolveWithin room path resolved state).map Prod.fst =
        context.spliceState path state) :
    (context.resolveWithin room path resolved state).map Prod.fst =
      context.spliceState path state := by
  cases kept : resolved.lookup state.name with
  | some rules =>
    rw [resolveWithin_of_kept kept,
      spliceState_of_flattens known leads (sound state rules known kept)]
    rfl
  | none =>
    by_cases again : state.name ∈ path
    · rw [resolveWithin_of_again kept again, spliceState, if_pos again]
      rfl
    · exact inner kept again

/-- A state is resolved as it is spliced, whatever has been kept. -/
theorem resolveWithin_eq_spliceState (known : context.Known state)
    (leads : context.Leads path state.name)
    (enough : context.states.length ≤ path.length + room) (sound : context.Sound resolved) :
    (context.resolveWithin room path resolved state).map Prod.fst =
      context.spliceState path state := by
  have defined : context.hasState state.name := hasState_iff.mpr ⟨state, known⟩
  induction room generalizing path resolved state with
  | zero =>
    -- A path as long as the list of states has come back to one of them.
    refine resolveWithin_eq_of_fresh known leads sound fun _ fresh => ?_
    have shorter := leads.length_lt fresh defined
    omega
  | succ room ih =>
    refine resolveWithin_eq_of_fresh known leads sound fun missing fresh => ?_
    have inner {resolved : Resolved} {included : StateDef} (sound : context.Sound resolved)
        (knownInner : context.Known included)
        (member : .includeState included.name ∈ state.entries) :
        (context.resolveWithin room (path ++ [state.name]) resolved included).map Prod.fst =
          context.spliceState (path ++ [state.name]) included := by
      have further := leads.snoc fresh defined ⟨state, known, member⟩
      refine ih knownInner further ?_ sound (hasState_iff.mpr ⟨included, knownInner⟩)
      rw [List.length_append, List.length_singleton]
      omega
    have expanded := expandEntries_eq_splice (List.Subset.refl state.entries) inner
      (fun sound known done => (resolveWithin_flattens sound known done).2) sound
    rw [spliceState, if_neg fresh, ← expanded, resolveWithin_of_fresh missing fresh]
    cases context.expandEntries state.name _ resolved state.entries <;> rfl

theorem resolveAll_eq_spliceStates {definitions : List StateDef}
    (known : ∀ state ∈ definitions, context.Known state) (sound : context.Sound resolved) :
    context.resolveAll resolved definitions = context.spliceStates definitions := by
  induction definitions generalizing resolved with
  | nil => rfl
  | cons definition definitions ih =>
    rw [List.forall_mem_cons] at known
    have same := resolveWithin_eq_spliceState known.1 (.nil definition.name)
      (Nat.le_add_left context.states.length _) sound
    rw [resolveAll, resolve, spliceStates, ← same]
    cases here : context.resolveWithin context.states.length [] resolved definition with
    | error cause => rfl
    | ok result =>
      have rest := ih known.2 (resolveWithin_flattens sound known.1 here).2
      simp only [bind, Except.bind, Except.map, rest]

/-! ### The first entry that fails -/

/-- A state that a path has come to fails, and this is the error of the first entry that does, depth
first: nothing is wrong with the entries before it. -/
inductive Breaks (context : BuildContext) : List String → StateDef → TableError → Prop
  | again {path : List String} {state : StateDef} (again : state.name ∈ path) :
    Breaks context path state (cycleError path state.name)
  | entry {path : List String} {state : StateDef} {front back : List RuleDef} {entry : RuleDef}
    {rules : List Rule} {error : TableError} (fresh : state.name ∉ path)
    (split : state.entries = front ++ entry :: back) (before : context.Flattens front rules)
    (refused : context.Refuses state.name entry error) : Breaks context path state error
  | inside {path : List String} {state included : StateDef} {front back : List RuleDef}
    {target : String} {rules : List Rule} {error : TableError} (fresh : state.name ∉ path)
    (split : state.entries = front ++ .includeState target :: back)
    (before : context.Flattens front rules) (found : context.stateDef? target = some included)
    (inner : Breaks context (path ++ [state.name]) included error) :
    Breaks context path state error

/-- What is spliced is a flattening. -/
theorem flattens_of_splice (done : context.splice path name entries = .ok rules) :
    context.Flattens entries rules := by
  fun_induction splice context path name entries generalizing rules with
  | case1 =>
    cases done
    exact .nil
  | case2 path name source action next rest ih =>
    obtain ⟨rule, taken, done⟩ := bind_eq_ok_iff.mp done
    obtain ⟨more, tail, done⟩ := bind_eq_ok_iff.mp done
    cases done
    obtain ⟨pattern, compiled, fits, rfl⟩ := compileRule_eq_ok_iff.mp taken
    exact .rule compiled fits (ih tail)
  | case3 | case4 => cases done
  | case5 path name target rest included found fresh ihHead ihTail =>
    obtain ⟨front, head, done⟩ := bind_eq_ok_iff.mp done
    obtain ⟨more, tail, done⟩ := bind_eq_ok_iff.mp done
    cases done
    exact .includeState found (ihHead head) (ihTail tail)

theorem breaks_of_splice (failed : context.splice path name entries = .error error)
    {earlier : List String} {front : List RuleDef} {rules : List Rule}
    (here : path = earlier ++ [name]) (named : state.name = name) (fresh : name ∉ earlier)
    (split : state.entries = front ++ entries) (before : context.Flattens front rules) :
    context.Breaks earlier state error := by
  fun_induction splice context path name entries generalizing state earlier front rules with
  | case1 => cases failed
  | case2 path name source action next rest ih =>
    subst named
    rcases bind_eq_error_iff.mp failed with refused | ⟨rule, taken, failed⟩
    · exact .entry fresh split before refused
    · rcases bind_eq_error_iff.mp failed with failed | ⟨_, _, done⟩
      · obtain ⟨pattern, compiled, fits, -⟩ := compileRule_eq_ok_iff.mp taken
        refine ih failed here rfl fresh ?_ (before.append (.rule compiled fits .nil))
        rw [split, List.append_assoc]; rfl
      · cases done
  | case3 path name target rest unknown =>
    subst named
    cases failed
    exact .entry fresh split before ⟨unknown, rfl⟩
  | case4 path name target rest included found again =>
    subst named
    cases failed
    refine .inside fresh split before found ?_
    rw [← here]
    exact .again again
  | case5 path name target rest included found again ihHead ihTail =>
    subst named
    rcases bind_eq_error_iff.mp failed with failed | ⟨more, head, failed⟩
    · refine .inside fresh split before found ?_
      rw [← here]
      exact ihHead failed rfl rfl again (List.nil_append _).symm .nil
    · rcases bind_eq_error_iff.mp failed with failed | ⟨_, _, done⟩
      · refine ihTail failed here rfl fresh ?_
          (before.append (.includeState found (flattens_of_splice head) .nil))
        rw [split, List.append_assoc]; rfl
      · cases done

theorem flattens_of_spliceState (done : context.spliceState path state = .ok rules) :
    context.Flattens state.entries rules := by
  unfold spliceState at done
  split at done
  · cases done
  · exact flattens_of_splice done

theorem breaks_of_spliceState (failed : context.spliceState path state = .error error) :
    context.Breaks path state error := by
  unfold spliceState at failed
  split at failed
  next again =>
    cases failed
    exact .again again
  next fresh => exact breaks_of_splice failed rfl rfl fresh (List.nil_append _).symm .nil

/-- Splicing a state fails with the error of the first entry that does. -/
theorem Breaks.spliceState_eq (breaks : context.Breaks path state error)
    (known : context.Known state) (leads : context.Leads path state.name) :
    context.spliceState path state = .error error := by
  induction breaks with
  | again again => rw [spliceState, if_pos again]
  | @entry path state front back entry rules error fresh split before refused =>
    have reaches := leads.of_entries known fresh
    rw [split] at reaches
    have spliced := splice_append_of_flattens before
      (fun inner member => reaches inner (List.mem_append_left _ member)) state.name (entry :: back)
    rw [spliceState, if_neg fresh, split, spliced]
    cases entry with
    | rule source action next =>
      rw [splice_rule, refused]
      rfl
    | includeState target =>
      obtain ⟨unknown, rfl⟩ := refused
      rw [splice_unknown unknown]
      rfl
  | @inside path state included front back target rules error fresh split before found inner ih =>
    have reaches := leads.of_entries known fresh
    have spliced := splice_append_of_flattens before
      (fun inner member => reaches inner (split ▸ List.mem_append_left _ member)) state.name
      (.includeState target :: back)
    have further : context.Leads (path ++ [state.name]) included.name := by
      refine leads.snoc fresh (hasState_iff.mpr ⟨state, known⟩) ⟨state, known, ?_⟩
      rw [split, name_of_stateDef? found]
      simp
    rw [spliceState, if_neg fresh, split, spliced, splice_includeState found,
      ih (known_of_stateDef? found) further]
    rfl

theorem spliceStates_eq_error_iff {definitions : List StateDef}
    (known : ∀ state ∈ definitions, context.Known state) :
    context.spliceStates definitions = .error error ↔
      ∃ front state back, definitions = front ++ state :: back ∧
        (∀ earlier ∈ front, ∃ rules, context.Flattens earlier.entries rules) ∧
        context.Breaks [] state error := by
  induction definitions with
  | nil => simp [spliceStates]
  | cons definition definitions ih =>
    rw [List.forall_mem_cons] at known
    rw [spliceStates, bind_eq_error_iff]
    constructor
    · rintro (failed | ⟨rules, spliced, failed⟩)
      · exact ⟨[], definition, definitions, rfl, by simp, breaks_of_spliceState failed⟩
      · rcases bind_eq_error_iff.mp failed with failed | ⟨_, _, done⟩
        · obtain ⟨front, state, back, rfl, before, breaks⟩ := (ih known.2).mp failed
          refine ⟨definition :: front, state, back, rfl, ?_, breaks⟩
          exact List.forall_mem_cons.mpr ⟨⟨rules, flattens_of_spliceState spliced⟩, before⟩
        · cases done
    · rintro ⟨front, state, back, split, before, breaks⟩
      cases front with
      | nil =>
        cases split
        exact .inl (breaks.spliceState_eq known.1 (.nil _))
      | cons first front =>
        cases split
        obtain ⟨⟨rules, flat⟩, before⟩ := List.forall_mem_cons.mp before
        have later := (ih known.2).mpr ⟨front, state, back, rfl, before, breaks⟩
        exact .inr ⟨rules, spliceState_of_flattens known.1 (.nil _) flat,
          bind_eq_error_iff.mpr (.inl later)⟩

/-- An error is that of a cycle, or of an entry of the state that it names. -/
theorem Breaks.exists_entry (breaks : context.Breaks path state error)
    (known : context.Known state) :
    (∃ path name, error = cycleError path name) ∨
      ∃ origin ∈ context.states, ∃ entry ∈ origin.entries,
        context.Refuses origin.name entry error := by
  induction breaks with
  | again => exact .inl ⟨_, _, rfl⟩
  | @entry path state _ _ entry _ _ _ split _ refused =>
    exact .inr ⟨state, mem_of_stateDef? known, entry, by simp [split], refused⟩
  | inside _ _ _ found _ ih => exact ih (known_of_stateDef? found)

end BuildContext

namespace TableDef

variable {library : Library} {definition : TableDef}

/-- Where no two states share a name and there is a root, a build is the resolution of the
states. -/
theorem build_eq_resolveAll (distinct : (definition.states.map StateDef.name).Nodup)
    (root : RuleTable.rootName ∈ definition.states.map StateDef.name) :
    definition.build library =
      ((definition.context library).resolveAll [] definition.states).map fun states =>
        ⟨definition.name, definition.options, states⟩ := by
  have unrepeated : firstRepeated? [] (definition.states.map StateDef.name) = none :=
    firstRepeated?_eq_none_iff.mpr ⟨distinct, by simp⟩
  have rooted : (definition.context library).hasState RuleTable.rootName :=
    hasState_context_iff.mpr root
  unfold build
  rw [unrepeated]
  change (if !(definition.context library).hasState RuleTable.rootName then _ else _) = _
  rw [rooted]
  change ((definition.context library).resolveAll [] definition.states >>= _) = _
  cases (definition.context library).resolveAll [] definition.states <;> rfl

/-- A build fails for a repeated name, for a root that is missing, or for the states, which are only
then resolved. -/
theorem exists_breaks {error : TableError} (failed : definition.build library = .error error) :
    (∃ name, error = .invalidDefinition (.duplicateState name definition.name)) ∨
    error = .missingRoot definition.name ∨
    (definition.states.map StateDef.name).Nodup ∧
      ∃ state ∈ definition.states, (definition.context library).Breaks [] state error := by
  cases first : firstRepeated? [] (definition.states.map StateDef.name) with
  | some name =>
    simp only [build, first] at failed
    cases failed
    exact .inl ⟨name, rfl⟩
  | none =>
    have distinct := (firstRepeated?_eq_none_iff.mp first).1
    by_cases root : RuleTable.rootName ∈ definition.states.map StateDef.name
    · have known : ∀ state ∈ definition.states, (definition.context library).Known state :=
        fun _ member => BuildContext.known_of_mem distinct member
      have spliced : (definition.context library).spliceStates definition.states =
          .error error := by
        rw [build_eq_resolveAll distinct root,
          BuildContext.resolveAll_eq_spliceStates known (BuildContext.sound_nil _)] at failed
        cases result : (definition.context library).spliceStates definition.states with
        | ok states => simp [result, Except.map] at failed
        | error other => simpa [result, Except.map] using failed
      obtain ⟨front, state, back, split, -, breaks⟩ :=
        (BuildContext.spliceStates_eq_error_iff known).mp spliced
      exact .inr (.inr ⟨distinct, state, by simp [split], breaks⟩)
    · have missing : (definition.context library).hasState RuleTable.rootName = false := by
        rw [Bool.eq_false_iff]
        exact fun known => root (hasState_context_iff.mp known)
      unfold build at failed
      rw [first] at failed
      change (if !(definition.context library).hasState RuleTable.rootName then _ else _) = _
        at failed
      rw [missing] at failed
      cases failed
      exact .inr (.inl rfl)

/-- **Plain splicing.** A definition without repeated names and with a root is built with the result
of plain splicing: each state in its order, each inclusion followed where it stands. If the build
fails, the states before some state can be flattened, this state breaks, and the error is that of
its first entry that fails, depth first. An error that names a state is about an entry that is
written in this state, and an error that shows a pattern shows the whole pattern of this entry. -/
theorem build_eq_spliced (library : Library) (definition : TableDef)
    (distinct : (definition.states.map StateDef.name).Nodup)
    (root : RuleTable.rootName ∈ definition.states.map StateDef.name) :
    let context := definition.context library
    definition.build library = (context.spliceStates definition.states).map (fun states =>
      ⟨definition.name, definition.options, states⟩) ∧
    (∀ error, definition.build library = .error error ↔
      ∃ front state back, definition.states = front ++ state :: back ∧
        (∀ earlier ∈ front, ∃ rules, context.Flattens earlier.entries rules) ∧
        context.Breaks [] state error) ∧
    ∀ error, definition.build library = .error error → ∀ name ∈ error.state?,
      ∃ state ∈ definition.states, state.name = name ∧
        ∃ entry ∈ state.entries, context.Refuses name entry error ∧
          ∀ pattern ∈ error.pattern?, ∃ action next, entry = .rule pattern action next := by
  intro context
  have known : ∀ state ∈ definition.states, context.Known state :=
    fun _ member => BuildContext.known_of_mem distinct member
  have spliced : definition.build library =
      (context.spliceStates definition.states).map fun states =>
        ⟨definition.name, definition.options, states⟩ := by
    rw [build_eq_resolveAll distinct root,
      BuildContext.resolveAll_eq_spliceStates known (BuildContext.sound_nil _)]
  have failing (error : TableError) : definition.build library = .error error ↔
      ∃ front state back, definition.states = front ++ state :: back ∧
        (∀ earlier ∈ front, ∃ rules, context.Flattens earlier.entries rules) ∧
        context.Breaks [] state error := by
    rw [← BuildContext.spliceStates_eq_error_iff known, spliced]
    cases context.spliceStates definition.states <;> simp [Except.map]
  refine ⟨spliced, failing, ?_⟩
  intro error failed name named
  obtain ⟨front, state, back, split, -, breaks⟩ := (failing error).mp failed
  have member : state ∈ definition.states := by simp [split]
  rcases breaks.exists_entry (known state member) with ⟨path, other, rfl⟩ |
    ⟨origin, defined, entry, here, refuses⟩
  · cases named
  · obtain ⟨place, shown⟩ := refuses.names
    obtain rfl : origin.name = name := Option.some.inj (place.symm.trans named)
    exact ⟨origin, defined, rfl, entry, here, refuses, shown⟩

/-- Two states include a third one, and the second of them has a rule that does not compile. The
error names this state, though the root that includes it comes first and has met the third state
before. -/
theorem build_eq_spliced_of_diamond :
    let words : StateDef := ⟨"words", [.staying "[a-z]+" (.token .name)]⟩
    let first : StateDef := ⟨"first", [.includeState "words"]⟩
    let second : StateDef := ⟨"second", [.includeState "words", .staying "(?<=a)(" (.token .text)]⟩
    let root : StateDef := ⟨"root", [.includeState "first", .includeState "second"]⟩
    let definition : TableDef := ⟨"diamond", {}, [root, first, second, words]⟩
    let error : TableError := .invalidPattern "second" "(?<=a)(" .groupUnclosed
    (definition.states.map StateDef.name).Nodup ∧
      RuleTable.rootName ∈ definition.states.map StateDef.name ∧
      definition.build [] = .error error ∧
      (definition.context []).spliceStates definition.states = .error error ∧
      ∃ state ∈ definition.states, state.name = "second" ∧ ∃ entry ∈ state.entries,
        (definition.context []).Refuses "second" entry error := by
  intro words first second root definition error
  have distinct : (definition.states.map StateDef.name).Nodup := by decide
  have rooted : RuleTable.rootName ∈ definition.states.map StateDef.name := by decide
  have failed : definition.build [] = .error error := rfl
  obtain ⟨spliced, -, places⟩ := build_eq_spliced [] definition distinct rooted
  refine ⟨distinct, rooted, failed, ?_, ?_⟩
  · rw [failed] at spliced
    cases result : (definition.context []).spliceStates definition.states with
    | ok states => simp [result, Except.map] at spliced
    | error other => simpa [result, Except.map, eq_comm] using spliced
  · obtain ⟨state, member, named, entry, here, refuses, -⟩ := places error failed "second" rfl
    exact ⟨state, member, named, entry, here, refuses⟩

end TableDef

end RuleLexer
