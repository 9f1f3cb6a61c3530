import Botwright.Proofs.LiteralReading
import Botwright.Proofs.NumberKeys

/-! What an accessor reads. Written for any path, it is read back as a chain with one link for
each step, and followed through a document the chain finds the value that the path addresses,
unless a position on the way is too large to be a number: its numeral then names another
property of an object than the one that its digits spell. -/
namespace Botwright.MemberAccess
open Script LiteralReading BindingAllocation NumberKeys
open FieldPath (Segment segments step? value?)

/-! ## Chains -/

/-- A text that is a name with links behind it, and nothing else. A name is what an accessor
writes bare: a run of identifier characters. -/
def readChain (s : List Char) : Option (String × List Link) := do
  let (object, rest) ← readName isIdentifier s
  let (links, rest) := readMany (readLink isIdentifier) rest
  if rest = [] then some (object, links) else none

/-- An accessor is a chain with a link for each step of its path. -/
theorem read_chain_access (identifier : isIdentifier object = true) (path : String)
    (optional : Bool) :
    readChain (access object path optional).toList =
      some (object, (segments path).map fun step => (optional, step)) := by
  have ends : Apart [] := nofun
  have apart := apart_access_steps optional (segments path) ends
  have bare : ∀ key ∈ bareKeys (segments path), isIdentifier key = true := by
    intro key held
    obtain ⟨step, _, shape⟩ := List.mem_filterMap.mp held
    exact (access_step_bare optional shape).1
  have links := (yields_access_steps optional (segments path) bare ends).read_many rfl
  rw [List.append_nil] at apart links
  rw [readChain, access, String.toList_append, read_name identifier identifier apart]
  simp only [Option.bind_eq_bind, Option.bind_some, links, if_true]

/-! ## Properties -/

/-- The key that a step spells: a name, or the digits of a position. -/
def spelled : Segment → String
  | .key name => name
  | .index position => String.ofList (Text.decimal position)

/-- The property that a link takes: a name as it is, or what a numeral evaluates to. -/
def propertyOf : Segment → String
  | .key name => name
  | .index position => numeralKey position

/-- What a document gives a value as properties of its own. The items of an array stand under
their positions, and a value that holds no others has none. -/
def properties : Json → List (String × Json)
  | .object members => members
  | .array items => items.zipIdx.map fun (item, position) => (spelled (.index position), item)
  | _ => []

/-- The value of the document at the end of a chain. There is none where the chain leaves the
document; an optional link differs from a plain one only there. -/
def evaluate? (document : Json) (links : List Link) : Option Json :=
  links.foldlM (fun value link => (properties value).lookup (propertyOf link.2)) document

theorem spelled_index_injective (same : spelled (.index n) = spelled (.index m)) : n = m := by
  have numbers : Scope.numbered "" n = Scope.numbered "" m := by
    simpa only [Scope.numbered, spelled, String.empty_append] using same
  exact numbered_injective numbers

theorem lookup_items (items : List Json) (start position : Nat) :
    ((items.zipIdx start).map fun (item, position) => (spelled (.index position), item)).lookup
      (spelled (.index (start + position))) = items[position]? := by
  induction items generalizing start position with
  | nil => rfl
  | cons item items ih =>
    rw [List.zipIdx_cons, List.map_cons]
    cases position with
    | zero => simp
    | succ position =>
      have other : spelled (.index (start + (position + 1))) ≠ spelled (.index start) := by
        intro same
        have := spelled_index_injective same
        omega
      rw [List.lookup_cons, beq_false_of_ne other, List.getElem?_cons_succ, ← ih (start + 1),
        show start + (position + 1) = start + 1 + position by omega]

/-- A step into a value goes to the property under the key that it spells. -/
theorem lookup_of_step (taken : step? value step = some held) :
    (properties value).lookup (spelled step) = some held := by
  cases step with
  | key name =>
    cases value with
    | object members => exact taken
    | _ => cases taken
  | index position =>
    cases value with
    | object members => exact taken
    | array items =>
      have found := lookup_items items 0 position
      rw [Nat.zero_add] at found
      exact found.trans taken
    | _ => cases taken

/-! ## Chains through documents -/

/-- Every numeral among the steps names the property that its digits spell. -/
def PlainNumerals (steps : List Segment) : Prop :=
  ∀ position, .index position ∈ steps → numeralKey position = spelled (.index position)

theorem plain_cons : PlainNumerals (step :: steps) ↔
    propertyOf step = spelled step ∧ PlainNumerals steps := by
  cases step with
  | key name => simp [PlainNumerals, propertyOf, spelled]
  | index position => simp [PlainNumerals, propertyOf]

theorem evaluate_of_plain (optional : Bool) (plain : PlainNumerals steps)
    (resolved : steps.foldlM step? document = some value) :
    evaluate? document (steps.map fun step => (optional, step)) = some value := by
  induction steps generalizing document with
  | nil => exact resolved
  | cons step steps ih =>
    obtain ⟨here, later⟩ := plain_cons.mp plain
    obtain ⟨inner, taken, rest⟩ := Option.bind_eq_some_iff.mp resolved
    have found := lookup_of_step taken
    rw [← here] at found
    exact bind_read found (ih later rest)

/-- A document in which the steps lead through objects that hold nothing else. -/
def nest : List Segment → Json
  | [] => .null
  | step :: steps => .object [(spelled step, nest steps)]

theorem resolve_nest (steps : List Segment) : steps.foldlM step? (nest steps) = some .null := by
  induction steps with
  | nil => rfl
  | cons step steps ih =>
    have taken : step? (nest (step :: steps)) step = some (nest steps) := by
      cases step <;> simp [nest, step?, spelled]
    exact bind_read taken ih

/-- A chain finds its way through objects with one member each only by their keys. -/
theorem plain_of_evaluate_nest (optional : Bool)
    (found : evaluate? (nest steps) (steps.map fun step => (optional, step)) = some value) :
    PlainNumerals steps := by
  induction steps with
  | nil => nofun
  | cons step steps ih =>
    obtain ⟨inner, taken, rest⟩ := Option.bind_eq_some_iff.mp found
    obtain ⟨before, after, only, -⟩ := List.lookup_eq_some_iff.mp taken
    have member : (propertyOf step, inner) ∈ properties (nest (step :: steps)) := by simp [only]
    obtain ⟨here, rfl⟩ := Prod.mk.inj (List.mem_singleton.mp member)
    exact plain_cons.mpr ⟨here, ih rest⟩

/-- An accessor is read back link by link, and finds what its path addresses in every document
just if its numerals are plain, as all below 2^53 are. -/
theorem access_reads_path (identifier : isIdentifier object = true) (path : String)
    (optional : Bool) :
    ∃ links, readChain (access object path optional).toList = some (object, links) ∧
      links = (segments path).map (fun step => (optional, step)) ∧
      ((∀ document value, value? document path = some value →
        evaluate? document links = some value) ↔ PlainNumerals (segments path)) ∧
      ((∀ position, .index position ∈ segments path → position < 2 ^ 53) →
        ∀ document value, value? document path = some value →
          evaluate? document links = some value) := by
  refine ⟨_, read_chain_access identifier path optional, rfl, ⟨fun follows => ?_,
    fun plain _ _ => evaluate_of_plain optional plain⟩, fun small _ _ => ?_⟩
  · exact plain_of_evaluate_nest optional (follows _ _ (resolve_nest _))
  · exact evaluate_of_plain optional fun position member =>
      numeral_key_small (small position member)

/-- Keys with a quote, a dash and a line feed, and a bracket that nothing closes. -/
theorem crooked_access_reads :
    let path := "[0].x-y[it's\nhere].name[007"
    isIdentifier "data" = true ∧
      readChain (access "data" path true).toList = some ("data",
        [(true, .index 0), (true, .key "x-y"), (true, .key "it's\nhere"), (true, .key "name"),
          (true, .index 7)]) ∧
      ∀ document value, value? document path = some value →
        evaluate? document ((segments path).map fun step => (true, step)) = some value := by
  intro path
  have identifier : isIdentifier "data" = true := by decide
  obtain ⟨links, read, rfl, -, follows⟩ := access_reads_path identifier path true
  have taken : segments path =
      [.index 0, .key "x-y", .key "it's\nhere", .key "name", .index 7] := by decide
  refine ⟨identifier, read.trans (by rw [taken]; rfl), follows fun position member => ?_⟩
  simp only [taken, List.mem_cons, reduceCtorEq, Segment.index.injEq, List.not_mem_nil,
    or_false, false_or] at member
  omega

/-- The numeral of a position that is no binary64 number misses the member of an object. -/
theorem large_position_astray :
    let path := "[9007199254740993]"
    let document : Json := .object [("9007199254740993", .bool true)]
    value? document path = some (.bool true) ∧
      access "data" path false = "data[9007199254740993]" ∧
      readChain (access "data" path false).toList =
        some ("data", [(false, .index 9007199254740993)]) ∧
      evaluate? document [(false, .index 9007199254740993)] = none := by
  intro path document
  have taken : segments path = [.index 9007199254740993] := by decide
  have read := read_chain_access (by decide : isIdentifier "data" = true) path false
  rw [taken] at read
  have key : propertyOf (.index 9007199254740993) = "9007199254740992" := by decide +kernel
  refine ⟨by rw [value?, taken]; rfl, by decide +kernel, read, ?_⟩
  simp only [evaluate?, List.foldlM_cons, key]
  rfl

end Botwright.MemberAccess
