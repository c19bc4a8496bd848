/-
Module: RouteScribe.Proofs.Routes.ReturnShapes
Layer: Proofs
Purpose: What is read off the return type of a handler. The wrappers of a value that comes later are peeled off by a
  relation of their own, and the payload of what is left is found by its place: it is the leftmost of the leaves
  that stand under the wrappers of results. The two readings of the same layers agree as long as no wrapper that
  is peeled off has more than one argument.
Imports: Mathlib.Tactic, RouteScribe.ReturnShape
Trusted boundary: human-reviewed spec
Main exports: Peels, LeafAt, Leftmost, SignatureRead, PayloadFound, Peels.bind_unwrapPayload,
  leftmost_unwrapPayload, signature_read
Open obligations: none
-/
import Mathlib.Tactic
import RouteScribe.ReturnShape

namespace RouteScribe

/-!
### The specification
-/

/-- Whether a type is a wrapper of a value that comes later. -/
def IsCompletion (conv : Conventions) (t : TypeExpr) : Prop :=
  ∃ path ∈ t.path?, conv.isAsyncWrapper path = true

/-- `Peels conv returns wrappers left` says that the wrappers of a value that comes later stand around a return type,
    each as the first argument of the one before, and that `left` is what stands in the last one. -/
inductive Peels (conv : Conventions) :
    Option TypeExpr → List (String × List TypeExpr) → Option TypeExpr → Prop where
  | absent : Peels conv none [] none
  | bare {t : TypeExpr} : ¬ IsCompletion conv t → Peels conv (some t) [] (some t)
  | wrapped {path : String} {args : List TypeExpr} {wrappers : List (String × List TypeExpr)}
      {left : Option TypeExpr} : conv.isAsyncWrapper path = true → Peels conv args.head? wrappers left →
        Peels conv (some (.named path args)) ((path, args) :: wrappers) left

/-- Whether the types at a path wrap one value, now or later. A path of this kind is of no other kind. -/
def WrapsOne (conv : Conventions) (path : String) : Prop :=
  conv.isAsyncWrapper path = true ∨ conv.isValueWrapper path = true

/-- Whether a type is a value of its own: no wrapper, no result without a value, and not the empty tuple. -/
structure IsPlainValue (conv : Conventions) (t : TypeExpr) : Prop where
  noWrapper : ∀ path ∈ t.path?, ¬ WrapsOne conv path
  noOneOf : ∀ path ∈ t.path?, conv.isOneOfWrapper path = false
  noEmpty : ∀ path ∈ t.path?, conv.isEmptyResult path = false
  noUnit : t ≠ .unit

/-- `LeafAt conv t place leaf` says that one comes from `t` to the value `leaf` by taking the argument of a wrapper with
    one argument, or any variant of a wrapper of several results, in turn; `place` has the numbers of the
    arguments. -/
inductive LeafAt (conv : Conventions) : TypeExpr → List Nat → TypeExpr → Prop where
  | here {t : TypeExpr} : IsPlainValue conv t → LeafAt conv t [] t
  | only {path : String} {inner leaf : TypeExpr} {place : List Nat} :
      WrapsOne conv path → LeafAt conv inner place leaf → LeafAt conv (.named path [inner]) (0 :: place) leaf
  | variant {path : String} {args : List TypeExpr} {i : Nat} {arg leaf : TypeExpr} {place : List Nat} :
      ¬ WrapsOne conv path → conv.isOneOfWrapper path = true → args[i]? = some arg → LeafAt conv arg place leaf →
        LeafAt conv (.named path args) (i :: place) leaf

/-- Whether a type is the one at the leftmost of some places, compared by their first different numbers; it is absent
    if there is no place. -/
def Leftmost (at' : List Nat → TypeExpr → Prop) : Option TypeExpr → Prop
  | none => ∀ place leaf, ¬ at' place leaf
  | some leaf => ∃ place, at' place leaf ∧ ∀ place' leaf', at' place' leaf' → ¬ List.Lex (· < ·) place' place

/-- Whether a result has to be waited for. -/
def isAwaited (declaredAsync : Bool) (wrappers : List (String × List TypeExpr)) : Bool :=
  declaredAsync || !wrappers.isEmpty

/-- `SignatureRead conv returns declaredAsync shape wrappers left` says that the shape is that of a handler with the
    given return type, if `wrappers` are peeled off the type and `left` is what is left of it. -/
structure SignatureRead (conv : Conventions) (returns : Option TypeExpr) (declaredAsync : Bool) (shape : ReturnShape)
    (wrappers : List (String × List TypeExpr)) (left : Option TypeExpr) : Prop where
  peeled : Peels conv returns wrappers left
  /-- With nothing left, or the empty tuple, nothing is handed back, at once or later. -/
  nothing : (∀ t ∈ left, t = .unit) → shape = if isAwaited declaredAsync wrappers then .fireAndForget else .void
  /-- Any other type is the declared one, with the payload that is found in it. -/
  value : ∀ t ∈ left, t ≠ .unit → ¬ IsCompletion conv t ∧
    shape = .payload t (unwrapPayload conv t) (isAwaited declaredAsync wrappers)
  /-- The payload is that of the whole type, if each wrapper has one argument at most. -/
  payload : (∀ wrapper ∈ wrappers, wrapper.2.length ≤ 1) → shape.payload? = returns.bind (unwrapPayload conv)

/-- Whether a payload is the leftmost leaf of a type, which is a value of its own. -/
structure PayloadFound (conv : Conventions) (t : TypeExpr) (payload : Option TypeExpr) : Prop where
  leftmost : Leftmost (LeafAt conv t) payload
  plain : ∀ leaf ∈ payload, IsPlainValue conv leaf

variable {conv : Conventions} {t leaf : TypeExpr} {place : List Nat}

theorem TypeExpr.isUnit_iff : t.isUnit = true ↔ t = .unit := by
  cases t with
  | named path args => cases args <;> simp [isUnit, unit]
  | _ => simp [isUnit, unit]

/-!
### Leaves
-/

/-- The leaves of a list of variants, each at the number of its variant and its place in it. -/
def LeafAmong (conv : Conventions) (ts : List TypeExpr) (place : List Nat) (leaf : TypeExpr) : Prop :=
  ∃ i arg rest, place = i :: rest ∧ ts[i]? = some arg ∧ LeafAt conv arg rest leaf

theorem LeafAt.isPlainValue (leafAt : LeafAt conv t place leaf) : IsPlainValue conv leaf := by
  induction leafAt with
  | here plain => exact plain
  | only _ _ ih => exact ih
  | variant _ _ _ _ ih => exact ih

theorem leafAt_wrapsOne_iff {path : String} {args : List TypeExpr} (wraps : WrapsOne conv path) :
    LeafAt conv (.named path args) place leaf ↔
      ∃ inner rest, args = [inner] ∧ place = 0 :: rest ∧ LeafAt conv inner rest leaf := by
  constructor
  · intro leafAt
    cases leafAt with
    | here plain => exact absurd wraps (plain.noWrapper path rfl)
    | only _ inside => exact ⟨_, _, rfl, rfl, inside⟩
    | variant notWraps _ _ _ => exact absurd wraps notWraps
  · rintro ⟨inner, rest, rfl, rfl, inside⟩
    exact .only wraps inside

theorem leafAt_oneOf_iff {path : String} {args : List TypeExpr} (notWraps : ¬ WrapsOne conv path)
    (oneOf : conv.isOneOfWrapper path = true) :
    LeafAt conv (.named path args) place leaf ↔ LeafAmong conv args place leaf := by
  constructor
  · intro leafAt
    cases leafAt with
    | here plain =>
        have other := plain.noOneOf path rfl
        rw [oneOf] at other
        cases other
    | only wraps _ => exact absurd wraps notWraps
    | variant _ _ found inside => exact ⟨_, _, _, rfl, found, inside⟩
  · rintro ⟨i, arg, rest, rfl, found, inside⟩
    exact .variant notWraps oneOf found inside

/-- Any other type is a leaf or has none. -/
theorem leafAt_other_iff (notWraps : ∀ path ∈ t.path?, ¬ WrapsOne conv path)
    (notOneOf : ∀ path ∈ t.path?, conv.isOneOfWrapper path = false) :
    LeafAt conv t place leaf ↔ IsPlainValue conv t ∧ place = [] ∧ leaf = t := by
  constructor
  · intro leafAt
    cases leafAt with
    | here plain => exact ⟨plain, rfl, rfl⟩
    | only wraps _ => exact absurd wraps (notWraps _ rfl)
    | variant _ oneOf _ _ =>
        have other := notOneOf _ rfl
        rw [oneOf] at other
        cases other
  · rintro ⟨plain, rfl, rfl⟩
    exact .here plain

/-!
### The leftmost leaf
-/

theorem Leftmost.congr {at' at'' : List Nat → TypeExpr → Prop} {payload : Option TypeExpr}
    (same : ∀ place leaf, at' place leaf ↔ at'' place leaf) (leftmost : Leftmost at'' payload) :
    Leftmost at' payload := by
  have : at' = at'' := funext fun place => funext fun leaf => propext (same place leaf)
  rwa [this]

/-- The leaves of the first variant stand on the left of all others. -/
theorem leftmost_leafAmong_cons {ts : List TypeExpr} {first others : Option TypeExpr}
    (leftmostFirst : Leftmost (LeafAt conv t) first) (leftmostOthers : Leftmost (LeafAmong conv ts) others) :
    Leftmost (LeafAmong conv (t :: ts)) (first.or others) := by
  cases first with
  | some leaf =>
      obtain ⟨place, leafAt, least⟩ := leftmostFirst
      refine ⟨0 :: place, ⟨0, t, place, rfl, rfl, leafAt⟩, ?_⟩
      rintro _ leaf' ⟨i, arg, rest, rfl, found, inside⟩ further
      rcases List.cons_lex_cons_iff.mp further with less | ⟨rfl, behind⟩
      · exact Nat.not_lt_zero i less
      · cases found
        exact least rest leaf' inside behind
  | none =>
      -- without a leaf in the first variant, a leaf has its place among the others, moved by one
      cases others with
      | none =>
          rintro _ leaf ⟨i, arg, rest, rfl, found, inside⟩
          cases i with
          | zero =>
              cases found
              exact leftmostFirst rest leaf inside
          | succ i => exact leftmostOthers (i :: rest) leaf ⟨i, arg, rest, rfl, found, inside⟩
      | some leaf =>
          obtain ⟨_, ⟨i, arg, rest, rfl, found, inside⟩, least⟩ := leftmostOthers
          refine ⟨(i + 1) :: rest, ⟨i + 1, arg, rest, rfl, found, inside⟩, ?_⟩
          rintro _ leaf' ⟨j, arg', rest', rfl, found', inside'⟩
          cases j with
          | zero =>
              cases found'
              exact absurd inside' (leftmostFirst rest' leaf')
          | succ j =>
              have notBefore := least (j :: rest') leaf' ⟨j, arg', rest', rfl, found', inside'⟩
              rwa [List.cons_lex_cons_iff, Nat.succ_lt_succ_iff, Nat.succ_inj, ← List.cons_lex_cons_iff]

/-- The leaf of the only argument of a wrapper is that of the wrapper. -/
theorem leftmost_only {path : String} {inner : TypeExpr} {payload : Option TypeExpr} (wraps : WrapsOne conv path)
    (leftmost : Leftmost (LeafAt conv inner) payload) : Leftmost (LeafAt conv (.named path [inner])) payload := by
  have none : Leftmost (LeafAmong conv []) none := by
    rintro _ leaf ⟨i, arg, rest, -, found, -⟩
    cases found
  have among := leftmost_leafAmong_cons leftmost none
  rw [Option.or_none] at among
  refine among.congr fun place leaf => ?_
  rw [leafAt_wrapsOne_iff wraps]
  constructor
  · rintro ⟨_, rest, same, rfl, inside⟩
    cases same
    exact ⟨0, inner, rest, rfl, rfl, inside⟩
  · rintro ⟨i, arg, rest, rfl, found, inside⟩
    cases i with
    | zero =>
        cases found
        exact ⟨inner, rest, rfl, rfl, inside⟩
    | succ i => cases found

/-! Each kind of type is unwrapped in its own way. -/

section

variable {path : String} {args : List TypeExpr}

theorem wrapsOne_iff : WrapsOne conv path ↔ (conv.isAsyncWrapper path || conv.isValueWrapper path) = true := by
  rw [WrapsOne, Bool.or_eq_true]

theorem unwrapPayload_only {inner : TypeExpr} (wraps : WrapsOne conv path) :
    unwrapPayload conv (.named path [inner]) = unwrapPayload conv inner := by
  rw [unwrapPayload, if_pos (wrapsOne_iff.mp wraps)]

theorem unwrapPayload_otherArity (wraps : WrapsOne conv path) (notOne : args.length ≠ 1) :
    unwrapPayload conv (.named path args) = none := by
  rw [unwrapPayload.eq_def]
  simp only [if_pos (wrapsOne_iff.mp wraps)]
  split
  · simp at notOne
  · rfl

theorem unwrapPayload_oneOf (notWraps : ¬ WrapsOne conv path) (oneOf : conv.isOneOfWrapper path = true) :
    unwrapPayload conv (.named path args) = firstPayload conv args := by
  rw [unwrapPayload.eq_def]
  simp only [if_neg (mt wrapsOne_iff.mpr notWraps), if_pos oneOf]

/-- A type of another kind is its own payload, unless it says that there is none. -/
theorem unwrapPayload_other (notWraps : ∀ path ∈ t.path?, ¬ WrapsOne conv path)
    (notOneOf : ∀ path ∈ t.path?, conv.isOneOfWrapper path = false) :
    IsPlainValue conv t ∧ unwrapPayload conv t = some t ∨ ¬ IsPlainValue conv t ∧ unwrapPayload conv t = none := by
  cases t with
  | named path args =>
      have notWraps := notWraps path rfl
      have notOneOf := notOneOf path rfl
      rw [unwrapPayload.eq_def]
      simp only [if_neg (mt wrapsOne_iff.mpr notWraps), notOneOf, Bool.false_eq_true, if_false]
      split_ifs with empty unit
      · refine .inr ⟨fun plain => ?_, rfl⟩
        have notEmpty := plain.noEmpty path rfl
        rw [empty] at notEmpty
        cases notEmpty
      · exact .inr ⟨fun plain => plain.noUnit (TypeExpr.isUnit_iff.mp unit), rfl⟩
      · refine .inl ⟨⟨?_, ?_, ?_, mt TypeExpr.isUnit_iff.mpr unit⟩, rfl⟩
        · rintro _ ⟨⟩
          exact notWraps
        · rintro _ ⟨⟩
          exact notOneOf
        · rintro _ ⟨⟩
          exact Bool.not_eq_true _ ▸ empty
  | array element => exact .inl ⟨⟨nofun, nofun, nofun, nofun⟩, rfl⟩
  | optional inner => exact .inl ⟨⟨nofun, nofun, nofun, nofun⟩, rfl⟩
  | param name => exact .inl ⟨⟨nofun, nofun, nofun, nofun⟩, rfl⟩
  | unresolved => exact .inl ⟨⟨nofun, nofun, nofun, nofun⟩, rfl⟩

theorem unwrapPayload_unit : unwrapPayload conv .unit = none := by
  by_cases wraps : WrapsOne conv "()"
  · exact unwrapPayload_otherArity wraps (by decide)
  · cases oneOf : conv.isOneOfWrapper "()" with
    | true => rw [TypeExpr.unit, unwrapPayload_oneOf wraps oneOf, firstPayload]
    | false =>
        have notWraps : ∀ path ∈ TypeExpr.unit.path?, ¬ WrapsOne conv path := by
          rintro _ ⟨⟩
          exact wraps
        have notOneOf : ∀ path ∈ TypeExpr.unit.path?, conv.isOneOfWrapper path = false := by
          rintro _ ⟨⟩
          exact oneOf
        rcases unwrapPayload_other notWraps notOneOf with ⟨plain, -⟩ | ⟨-, none⟩
        · exact absurd rfl plain.noUnit
        · exact none

end

/-- A wrapper of one value with another number of arguments has no leaf. -/
theorem leftmost_otherArity {path : String} {args : List TypeExpr} (wraps : WrapsOne conv path)
    (notOne : args.length ≠ 1) : Leftmost (LeafAt conv (.named path args)) (unwrapPayload conv (.named path args)) := by
  rw [unwrapPayload_otherArity wraps notOne]
  intro place leaf leafAt
  obtain ⟨inner, rest, rfl, -, -⟩ := (leafAt_wrapsOne_iff wraps).mp leafAt
  exact notOne rfl

/-- A type of another kind has no leaf but itself. -/
theorem leftmost_other (notWraps : ∀ path ∈ t.path?, ¬ WrapsOne conv path)
    (notOneOf : ∀ path ∈ t.path?, conv.isOneOfWrapper path = false) :
    Leftmost (LeafAt conv t) (unwrapPayload conv t) := by
  rcases unwrapPayload_other notWraps notOneOf with ⟨plain, payload⟩ | ⟨notPlain, payload⟩
  · rw [payload]
    exact ⟨[], .here plain, fun _ _ _ => List.not_lex_nil⟩
  · rw [payload]
    intro place leaf leafAt
    exact notPlain ((leafAt_other_iff notWraps notOneOf).mp leafAt).1

mutual

/-- The payload of a type is its leftmost leaf, -/
theorem leftmost_unwrapPayload (conv : Conventions) (t : TypeExpr) :
    Leftmost (LeafAt conv t) (unwrapPayload conv t) := by
  cases t with
  | named path args =>
      have variants := leftmost_firstPayload conv args
      by_cases wraps : WrapsOne conv path
      · match args with
        | [inner] =>
            rw [unwrapPayload_only wraps]
            exact leftmost_only wraps (leftmost_unwrapPayload conv inner)
        | [] => exact leftmost_otherArity wraps (by simp)
        | _ :: _ :: _ => exact leftmost_otherArity wraps (by simp)
      · cases oneOf : conv.isOneOfWrapper path with
        | true =>
            rw [unwrapPayload_oneOf wraps oneOf]
            exact variants.congr fun place leaf => leafAt_oneOf_iff wraps oneOf
        | false => exact leftmost_other (by rintro _ ⟨⟩; exact wraps) (by rintro _ ⟨⟩; exact oneOf)
  | array element => exact leftmost_other nofun nofun
  | optional inner => exact leftmost_other nofun nofun
  | param name => exact leftmost_other nofun nofun
  | unresolved => exact leftmost_other nofun nofun

/-- and the payload of a list of variants is the leftmost leaf of the first one that has a leaf. -/
theorem leftmost_firstPayload (conv : Conventions) (ts : List TypeExpr) :
    Leftmost (LeafAmong conv ts) (firstPayload conv ts) := by
  cases ts with
  | nil =>
      rintro _ leaf ⟨i, arg, rest, -, found, -⟩
      cases found
  | cons t ts =>
      have first := leftmost_unwrapPayload conv t
      have others := leftmost_firstPayload conv ts
      have combined := leftmost_leafAmong_cons first others
      rw [firstPayload]
      cases unwrapped : unwrapPayload conv t with
      | none => rwa [unwrapped] at combined
      | some payload => rwa [unwrapped] at combined

end

/-!
### Wrappers of a value that comes later
-/

theorem peelAsync_of_not_isCompletion (notCompletion : ¬ IsCompletion conv t) :
    ReturnShape.peelAsync conv t = (some t, false) := by
  cases t with
  | named path args =>
      have notWrapper : ¬ conv.isAsyncWrapper path = true := fun wrapper => notCompletion ⟨path, rfl, wrapper⟩
      cases args with
      | nil => rw [ReturnShape.peelAsync, if_neg notWrapper]
      | cons arg args => rw [ReturnShape.peelAsync, if_neg notWrapper]
  | array element => rfl
  | optional inner => rfl
  | param name => rfl
  | unresolved => rfl

/-- What `peelAsync` leaves is what stands in the last of the wrappers, and it tells whether there is one. -/
theorem exists_peels (conv : Conventions) (t : TypeExpr) :
    ∃ wrappers, Peels conv (some t) wrappers (ReturnShape.peelAsync conv t).1 ∧
      (ReturnShape.peelAsync conv t).2 = !wrappers.isEmpty := by
  by_cases completion : IsCompletion conv t
  · match t, completion with
    | .named path [], ⟨_, rfl, wrapper⟩ =>
        rw [ReturnShape.peelAsync, if_pos wrapper]
        exact ⟨[(path, [])], .wrapped wrapper .absent, rfl⟩
    | .named path (arg :: args), ⟨_, rfl, wrapper⟩ =>
        obtain ⟨wrappers, peeled, -⟩ := exists_peels conv arg
        rw [ReturnShape.peelAsync, if_pos wrapper]
        exact ⟨(path, arg :: args) :: wrappers, .wrapped wrapper peeled, rfl⟩
  · rw [peelAsync_of_not_isCompletion completion]
    exact ⟨[], .bare completion, rfl⟩

namespace Peels

variable {returns left : Option TypeExpr} {wrappers : List (String × List TypeExpr)}

/-- No further wrapper can be peeled off what is left. -/
theorem not_isCompletion (peeled : Peels conv returns wrappers left) : ∀ t ∈ left, ¬ IsCompletion conv t := by
  induction peeled with
  | absent => nofun
  | bare notCompletion =>
      rintro _ ⟨⟩
      exact notCompletion
  | wrapped _ _ ih => exact ih

/-- The payload of what is left is that of the whole type, if both readings look into the same argument of each
    wrapper. -/
theorem bind_unwrapPayload (peeled : Peels conv returns wrappers left)
    (single : ∀ wrapper ∈ wrappers, wrapper.2.length ≤ 1) :
    left.bind (unwrapPayload conv) = returns.bind (unwrapPayload conv) := by
  induction peeled with
  | absent => rfl
  | bare _ => rfl
  | @wrapped path args wrappers left wrapper inner ih =>
      obtain ⟨first, others⟩ := List.forall_mem_cons.mp single
      have wraps : WrapsOne conv path := .inl wrapper
      rw [ih others]
      match args with
      | [] => exact (unwrapPayload_otherArity wraps (by simp)).symm
      | [inner] => exact (unwrapPayload_only wraps).symm
      | _ :: _ :: _ => simp at first

end Peels

/-!
### Shapes
-/

/-- The shape of a handler whose return type leaves a type, or nothing, when its wrappers are peeled off. -/
def ReturnShape.ofLeft (conv : Conventions) (waits : Bool) : Option TypeExpr → ReturnShape
  | none => if waits then .fireAndForget else .void
  | some t => if t.isUnit then if waits then .fireAndForget else .void else .payload t (unwrapPayload conv t) waits

theorem exists_ofSignature (conv : Conventions) (returns : Option TypeExpr) (declaredAsync : Bool) :
    ∃ wrappers left, Peels conv returns wrappers left ∧
      ReturnShape.ofSignature returns declaredAsync conv = .ofLeft conv (isAwaited declaredAsync wrappers) left := by
  cases returns with
  | none => exact ⟨[], none, .absent, by simp [ReturnShape.ofSignature, ReturnShape.ofLeft, isAwaited]⟩
  | some t =>
      obtain ⟨wrappers, peeled, wrapped⟩ := exists_peels conv t
      refine ⟨wrappers, _, peeled, ?_⟩
      rw [isAwaited, ← wrapped]
      rfl

namespace ReturnShape

variable {waits : Bool} {left : Option TypeExpr}

theorem ofLeft_of_unit (unit : ∀ t ∈ left, t = .unit) :
    ofLeft conv waits left = if waits then .fireAndForget else .void := by
  cases left with
  | none => rfl
  | some t =>
      rw [unit t rfl]
      rfl

theorem ofLeft_of_ne_unit (value : t ≠ .unit) :
    ofLeft conv waits (some t) = .payload t (unwrapPayload conv t) waits :=
  if_neg (mt TypeExpr.isUnit_iff.mp value)

/-- The payload of a shape is that of the type that is left. -/
theorem payload?_ofLeft : (ofLeft conv waits left).payload? = left.bind (unwrapPayload conv) := by
  by_cases unit : ∀ t ∈ left, t = .unit
  · have none : left.bind (unwrapPayload conv) = none := by
      refine Option.bind_eq_none_iff.mpr fun t mem => ?_
      rw [unit t mem, unwrapPayload_unit]
    rw [ofLeft_of_unit unit, none]
    cases waits <;> rfl
  · push Not at unit
    obtain ⟨t, rfl, value⟩ := unit
    rw [ofLeft_of_ne_unit value]
    rfl

end ReturnShape

/-- Whatever the names are that count as wrappers, the return type of a handler is read as it is described above: its
    wrappers are peeled off, which leaves a declared type or nothing, and the payload of a type is its leftmost
    leaf. -/
theorem signature_read (conv : Conventions) (returns : Option TypeExpr) (declaredAsync : Bool) :
    (∃ wrappers left,
      SignatureRead conv returns declaredAsync (.ofSignature returns declaredAsync conv) wrappers left) ∧
      ∀ t, PayloadFound conv t (unwrapPayload conv t) := by
  constructor
  · obtain ⟨wrappers, left, peeled, shape⟩ := exists_ofSignature conv returns declaredAsync
    refine ⟨wrappers, left, peeled, fun unit => ?_, fun t mem value => ?_, fun single => ?_⟩
    · rw [shape, ReturnShape.ofLeft_of_unit unit]
    · rw [shape, Option.mem_def.mp mem, ReturnShape.ofLeft_of_ne_unit value]
      exact ⟨peeled.not_isCompletion t mem, rfl⟩
    · rw [shape, ReturnShape.payload?_ofLeft, peeled.bind_unwrapPayload single]
  · intro t
    have leftmost := leftmost_unwrapPayload conv t
    refine ⟨leftmost, fun leaf found => ?_⟩
    rw [Option.mem_def.mp found] at leftmost
    obtain ⟨place, leafAt, -⟩ := leftmost
    exact leafAt.isPlainValue

/-- The two readings differ on a wrapper with two arguments: only the shape looks into the first one. -/
example :
    let t : TypeExpr := .named "r::Task" [.named "A" [], .named "B" []]
    (ReturnShape.ofSignature (some t) false (.ofNamespace "r")).payload? = some (.named "A" []) ∧
      unwrapPayload (.ofNamespace "r") t = none := by
  decide

end RouteScribe
