import Botwright.Proofs.CodeLines
import Botwright.Proofs.ModuleReading
import Botwright.Proofs.OptionLocals

/-! What the handlers of a module do for their requests, read from its lines: which
texts of an endpoint they replace, and which variables of the environment they read.
A line that does neither is passed over, and so is the code that a user wrote. A line is
taken by its words, whether the language admits them as names or not. -/
namespace Botwright.RequestReading
open Script Reply Project LiteralReading StatementReading SnippetLocals ModuleReading CodeLines

/-! ## Steps -/

/-- What a line does for a request. A setting is a variable of the environment. -/
inductive RequestStep where
  /-- Puts the value of a local for every occurrence of a text in the endpoint. -/
  | replacement (target : List Char) (source : String)
  /-- Makes the address: its base is a setting, if one is read and set, else a fixed text. -/
  | address (setting : Option String) (base : List Char)
  /-- Sends a setting in a header, behind a fixed text. -/
  | header (name before : List Char) (setting : String)
  | query (name : List Char) (setting : String)
  deriving DecidableEq, Repr

/-- The variables of the environment that a step reads. -/
def RequestStep.settings : RequestStep → List String
  | .replacement _ _ => []
  | .address setting _ => setting.toList
  | .header _ _ setting | .query _ setting => [setting]

/-- A member of the environment. -/
def readSetting : Reader String := fun s =>
  match (expect "env" s).bind (readLink anyWord) with
  | some ((false, .key name), rest) => some (name, rest)
  | _ => none

def readReplacement (names : Names) : Reader RequestStep := fun s => do
  let s ← expect "endpoint = endpoint.replaceAll(" s
  let (target, s) ← readString s
  let s ← expect ", encodeURIComponent(String(" s
  let (source, s) ← readReference names s
  let s ← expect " ?? '')));" s
  return (.replacement target source, s)

/-- The setting in front of a fixed base. -/
def readOverride (s : List Char) : Option String × List Char :=
  match readSetting s with
  | some (name, rest) => (some name, (expect " ?? " rest).getD rest)
  | none => (none, s)

def readAddress : Reader RequestStep := fun s => do
  let s ← expect "const " s
  let (_, s) ← readWord s
  let s ← expect " = buildUrl(" s
  let (setting, s) := readOverride s
  let (base, s) ← readString s
  let s ← expect ", endpoint);" s
  return (.address setting base, s)

/-- A setting, or a template of one behind the word for a bearer. -/
def readSecret : Reader (List Char × String) := fun s =>
  match expect "`Bearer $\x7b" s with
  | some s => do
    let (setting, s) ← readSetting s
    let s ← expect "\x7d`" s
    return (("Bearer ".toList, setting), s)
  | none => (readSetting s).map fun (setting, s) => (([], setting), s)

def readHeader : Reader RequestStep := fun s => do
  let s ← expect "headers.set(" s
  let (name, s) ← readString s
  let s ← expect ", " s
  let ((before, setting), s) ← readSecret s
  let s ← expect ");" s
  return (.header name before setting, s)

def readQuery : Reader RequestStep := fun s => do
  let s ← expect "url.searchParams.set(" s
  let (name, s) ← readString s
  let s ← expect ", " s
  let (setting, s) ← readSetting s
  let s ← expect ");" s
  return (.query name setting, s)

def readStep : Reader RequestStep := fun s =>
  (readReplacement anyWord s).or ((readAddress s).or ((readHeader s).or (readQuery s)))

/-- What a line does for a request, if it does something. -/
def requestStep? (line : List Char) : Option RequestStep :=
  (readStep (line.dropWhile (· = ' '))).bind fun (step, rest) =>
    if rest = [] then some step else none

/-- What pieces of a module do for requests, in order. -/
def requestSteps (pieces : List Code) : List RequestStep := gathered requestStep? pieces

/-- The variables of the environment that pieces of a module read. -/
def settingsRead (pieces : List Code) : List String :=
  (requestSteps pieces).flatMap RequestStep.settings

/-! ## Steps of a tree -/

theorem step_indent (depth : Nat) (line : List Char) :
    requestStep? (indent depth line) = requestStep? line := by
  rw [requestStep?, drop_indent, requestStep?]

mutual

theorem piece_at_depth (depth : Nat) (piece : Code) :
    (codeLines depth piece).filterMap requestStep? =
      (codeLines 0 piece).filterMap requestStep? := by
  have single (text : String) : ((lines text.toList).map (indent depth)).filterMap requestStep? =
      ((lines text.toList).map (indent 0)).filterMap requestStep? := by
    simp [List.filterMap_map, step_indent]
  cases piece with
  | line text => exact single text
  | raw text => rfl
  | blank => rfl
  | block opening closing body =>
    simp only [codeLines, List.filterMap_append, single]
    rw [steps_at_depth (depth + 1), ← steps_at_depth 1]
  | indented body =>
    simp only [codeLines]
    rw [steps_at_depth (depth + 1), ← steps_at_depth 1]

/-- How deep pieces stand does not matter. -/
theorem steps_at_depth (depth : Nat) (pieces : List Code) :
    (allLines depth pieces).filterMap requestStep? = requestSteps pieces := by
  cases pieces with
  | nil => rfl
  | cons piece rest =>
    rw [allLines, List.filterMap_append, piece_at_depth, steps_at_depth depth rest, requestSteps,
      requestSteps, gathered, gathered, allLines, List.filterMap_append]

end

@[simp] theorem steps_append (front back : List Code) :
    requestSteps (front ++ back) = requestSteps front ++ requestSteps back :=
  gathered_append requestStep? front back

theorem steps_cons (piece : Code) (rest : List Code) :
    requestSteps (piece :: rest) = requestSteps [piece] ++ requestSteps rest :=
  steps_append [piece] rest

theorem steps_lines (text : String) :
    requestSteps [.line text] = (lines text.toList).filterMap requestStep? := by
  simp [requestSteps, gathered, allLines, codeLines, List.filterMap_map, step_indent]

theorem steps_line (single : OneLine text) :
    requestSteps [.line text] = (requestStep? text.toList).toList :=
  gathered_line single requestStep?

theorem steps_block (opening closing : String) (body : List Code) :
    requestSteps [.block opening closing body] =
      requestSteps [.line opening] ++ requestSteps body ++ requestSteps [.line closing] := by
  rw [← steps_at_depth 1 body]
  simp [requestSteps, gathered, allLines, codeLines]

theorem steps_indented (body : List Code) : requestSteps [.indented body] = requestSteps body := by
  rw [← steps_at_depth 1 body]
  simp [requestSteps, gathered, allLines, codeLines]

/-! ## Silent pieces -/

/-- Pieces that do nothing for a request. -/
def Silent (pieces : List Code) : Prop := requestSteps pieces = []

instance (pieces : List Code) : Decidable (Silent pieces) := inferInstanceAs (Decidable (_ = _))

theorem Silent.steps (silent : Silent pieces) : requestSteps pieces = [] := silent

theorem Silent.append (front : Silent pieces) (back : Silent more) : Silent (pieces ++ more) := by
  rw [Silent, steps_append, front, back]
  rfl

theorem Silent.cons (first : Silent [piece]) (rest : Silent more) : Silent (piece :: more) :=
  first.append rest

theorem silent_map {write : α → Code} {entries : List α}
    (each : ∀ entry ∈ entries, Silent [write entry]) : Silent (entries.map write) :=
  gathered_map_nil each

theorem silent_line (single : OneLine text) (foreign : requestStep? text.toList = none) :
    Silent [.line text] := by
  rw [Silent, steps_line single, foreign]
  rfl

theorem silent_block (opens : Silent [.line opening]) (body : Silent pieces)
    (closes : Silent [.line closing]) : Silent [.block opening closing pieces] := by
  rw [Silent, steps_block, opens, body, closes]
  rfl

/-- The characters that begin a line which does something for a request, and the space. -/
def leading : List Char := [' ', 'c', 'e', 'h', 'u']

/-- Characters of one line that begins as no step does. -/
def Foreign (chars : List Char) : Prop := '\n' ∉ chars ∧ chars.head? ∉ leading.map some

instance (chars : List Char) : Decidable (Foreign chars) := inferInstanceAs (Decidable (_ ∧ _))

theorem Foreign.head (foreign : Foreign (c :: rest)) : c ∉ leading := by
  simpa using foreign.2

theorem foreign_of_head (begins : line.head? = some c) (other : c ∉ leading) :
    requestStep? line = none := by
  obtain ⟨rest, rfl⟩ : ∃ rest, line = c :: rest := by
    cases line with
    | nil => cases begins
    | cons d rest => exact ⟨rest, by cases begins; rfl⟩
  simp only [leading, List.mem_cons, List.not_mem_nil, or_false, not_or] at other
  obtain ⟨space, const, endpoint, headers, url⟩ := other
  have replacement : readReplacement anyWord (c :: rest) = none := by
    simp [readReplacement, expect, Text.dropStart?, Ne.symm endpoint]
  have address : readAddress (c :: rest) = none := by
    simp [readAddress, expect, Text.dropStart?, Ne.symm const]
  have header : readHeader (c :: rest) = none := by
    simp [readHeader, expect, Text.dropStart?, Ne.symm headers]
  have query : readQuery (c :: rest) = none := by
    simp [readQuery, expect, Text.dropStart?, Ne.symm url]
  rw [requestStep?, List.dropWhile_cons_of_neg (by simpa using space), readStep, replacement,
    address, header, query]
  rfl

theorem silent_of_head (single : OneLine text) (begins : text.toList.head? = some c)
    (other : c ∉ leading) : Silent [.line text] :=
  silent_line single (foreign_of_head begins other)

/-- A line that is written out. -/
theorem silent_fixed {chars : List Char} (foreign : Foreign chars) :
    Silent [.line (String.ofList chars)] := by
  refine silent_line (one_line_chars foreign.1) ?_
  rw [String.toList_ofList]
  cases chars with
  | nil => rfl
  | cons c rest => exact foreign_of_head rfl foreign.head

/-- A line that is written out up to one text inside it. -/
theorem silent_between {front back : List Char} (foreign : Foreign (c :: front ++ back))
    (single : OneLine text) :
    Silent [.line (String.ofList (c :: front) ++ text ++ String.ofList back)] :=
  silent_of_head (one_line_between foreign.1 single) (by simp) foreign.head

theorem silent_block_fixed {opening closing : List Char} (opens : Foreign opening)
    (body : Silent pieces) (closes : Foreign closing) :
    Silent [.block (String.ofList opening) (String.ofList closing) pieces] :=
  silent_block (silent_fixed opens) body (silent_fixed closes)

/-- The fixed lines that begin with the first character of a step and are none. -/
def unlikeLines : List String :=
  ["const base = (baseUrl ?? '').replace(/\\/+$/, '');", "const headers = new Headers();",
    "headers.set('Content-Type', 'application/json');",
    "const apiResponse = await fetch(url, \x7b method: 'GET', headers \x7d);",
    Snippet.dataLine, "const parts = [];", "const fields = [];",
    "const selectedData = \x7b\x7d;", "embeds: [\x7b", "color: 0x5865F2,", "const handlers = \x7b",
    "export async function dispatchCommand(name, options, env) \x7b",
    "const payload = await handlers[name](options ?? \x7b\x7d, env);"]

/-- They are read in one go, as each of them is tried against the same texts. -/
theorem unlike_foreign : ∀ text ∈ unlikeLines, OneLine text ∧ requestStep? text.toList = none := by
  decide +kernel

theorem silent_unlike (listed : text ∈ unlikeLines) : Silent [.line text] :=
  silent_line (unlike_foreign text listed).1 (unlike_foreign text listed).2

theorem silent_blank : Silent [.blank] := rfl

/-! ## Reading the steps -/

theorem step_of_read (begins : text.head? ≠ some ' ') (read : readStep text = some (step, [])) :
    requestStep? text = some step := by
  rw [requestStep?, drop_spaces begins, read]
  rfl

theorem read_setting (name : String) (apart : Apart rest) :
    readSetting ((member "env" name).toList ++ rest) = some (name, rest) := by
  rw [member_eq, String.toList_append, List.append_assoc, readSetting, expect_append,
    Option.bind_some, read_access_step false (.key name) (fun key _ => any_word key) apart]

theorem to_list_replacement (option : BoundOption) :
    (endpointReplacement option).toList = "endpoint = endpoint.replaceAll(".toList ++
      (quoted (placeholder option.name).toList ++ (", encodeURIComponent(String(".toList ++
        (option.binding.toList ++ " ?? '')));".toList))) := by
  unfold endpointReplacement stringLiteral
  simp only [String.toList_append, String.toList_ofList, List.append_assoc]

theorem read_replacement (named : Readable names option.binding) :
    readReplacement names (endpointReplacement option).toList =
      some (.replacement (placeholder option.name).toList option.binding, []) := by
  have apart : Apart " ?? '')));".toList := apart_head rfl (by decide)
  rw [to_list_replacement, readReplacement]
  refine bind_read (expect_append _ _) ?_
  refine bind_read (read_quoted _ _) ?_
  refine bind_read (expect_append _ _) ?_
  refine bind_read (read_local named apart) ?_
  exact bind_read (expect_whole _) rfl

theorem read_replacement_refused (named : Local option.binding)
    (refused : names option.binding = false) :
    readReplacement names (endpointReplacement option).toList = none := by
  have apart : Apart " ?? '')));".toList := apart_head rfl (by decide)
  rw [to_list_replacement, readReplacement]
  refine bind_read (expect_append _ _) ?_
  refine bind_read (read_quoted _ _) ?_
  refine bind_read (expect_append _ _) ?_
  rw [read_reference_refused named.identifier refused apart]
  rfl

theorem step_replacement (named : Local option.binding) :
    requestStep? (endpointReplacement option).toList =
      some (.replacement (placeholder option.name).toList option.binding) := by
  apply step_of_read (by simp [to_list_replacement])
  rw [readStep, read_replacement (readable_word named), Option.some_or]

theorem read_override (profile : Profile) (rest : List Char) :
    readOverride ((baseUrlExpression profile).toList ++ rest) =
      (profile.urlVariable?, quoted profile.baseUrl.toList ++ rest) := by
  unfold baseUrlExpression
  cases profile.urlVariable? with
  | none =>
    have plain (tail : List Char) : readSetting (quoted profile.baseUrl.toList ++ tail) = none :=
      rfl
    simp only [stringLiteral, String.toList_ofList, readOverride, plain]
  | some name =>
    have text : (member "env" name ++ " ?? " ++ stringLiteral profile.baseUrl).toList ++ rest =
        (member "env" name).toList ++ (" ?? ".toList ++
          (quoted profile.baseUrl.toList ++ rest)) := by
      simp [stringLiteral]
    have apart : Apart (" ?? ".toList ++ (quoted profile.baseUrl.toList ++ rest)) :=
      apart_head rfl (by decide)
    simp only [text, readOverride, read_setting name apart, expect_append, Option.getD_some]

/-- The line that makes the address of a request. -/
def addressText (profile : Profile) : String :=
  "const url = buildUrl(" ++ baseUrlExpression profile ++ ", endpoint);"

theorem step_address (profile : Profile) :
    requestStep? (addressText profile).toList =
      some (.address profile.urlVariable? profile.baseUrl.toList) := by
  have text : (addressText profile).toList = "const ".toList ++ ("url".toList ++
      (" = buildUrl(".toList ++ ((baseUrlExpression profile).toList ++
        ", endpoint);".toList))) := by
    have opening : "const url = buildUrl(" = "const " ++ ("url" ++ " = buildUrl(") := by decide
    unfold addressText
    simp only [opening, String.toList_append, List.append_assoc]
  have named (tail : List Char) : readWord ("url".toList ++ (" = buildUrl(".toList ++ tail)) =
      some ("url", " = buildUrl(".toList ++ tail) :=
    read_word (by decide) (apart_head rfl (by decide))
  have other (tail : List Char) : readReplacement anyWord ("const ".toList ++ tail) = none := rfl
  have read : readAddress ("const ".toList ++ ("url".toList ++
      (" = buildUrl(".toList ++ ((baseUrlExpression profile).toList ++
        ", endpoint);".toList)))) =
      some (.address profile.urlVariable? profile.baseUrl.toList, []) := by
    rw [readAddress]
    refine bind_read (expect_append _ _) ?_
    refine bind_read (named _) ?_
    refine bind_read (expect_append _ _) ?_
    rw [read_override]
    refine bind_read (read_quoted _ _) ?_
    exact bind_read (expect_whole _) rfl
  apply step_of_read (by simp [text])
  rw [readStep, text, other, read, Option.none_or, Option.some_or]

/-- What attaches the secret of a profile, if it has one. -/
def attachment? (profile : Profile) : Option RequestStep :=
  let name (fallback : String) := (profile.apiKeyName?.getD fallback).toList
  match profile.auth with
  | .none => none
  | .keyHeader => some (.header (name defaultHeader) [] profile.keyVariable)
  | .bearer => some (.header "Authorization".toList "Bearer ".toList profile.keyVariable)
  | .keyQuery => some (.query (name defaultQuery) profile.keyVariable)

def authorizationText : Authorization → String
  | .header statement | .query statement => statement

theorem read_secret (name : String) (apart : Apart rest) :
    readSecret ((member "env" name).toList ++ rest) = some (([], name), rest) := by
  have plain : expect "`Bearer $\x7b" ((member "env" name).toList ++ rest) = none := by
    simp [member_eq, expect, Text.dropStart?]
  rw [readSecret, plain, read_setting name apart]
  rfl

theorem read_bearer (name : String) (rest : List Char) :
    readSecret ("`Bearer $\x7b".toList ++ ((member "env" name).toList ++
      ("\x7d`".toList ++ rest))) = some (("Bearer ".toList, name), rest) := by
  have apart : Apart ("\x7d`".toList ++ rest) := apart_head rfl (by decide)
  simp only [readSecret, expect_append, read_setting name apart, Option.bind_eq_bind,
    Option.bind_some, Option.pure_def]

theorem read_header_step (read : readSecret (secret ++ ");".toList) =
    some ((before, setting), ");".toList)) (name : List Char) :
    readStep ("headers.set(".toList ++ (quoted name ++ (", ".toList ++ (secret ++ ");".toList)))) =
      some (.header name before setting, []) := by
  have replacement (tail : List Char) :
      readReplacement anyWord ("headers.set(".toList ++ tail) = none :=
    rfl
  have address (tail : List Char) : readAddress ("headers.set(".toList ++ tail) = none := rfl
  rw [readStep, replacement, address, readHeader]
  simp only [expect_append, read_quoted, read, expect_whole, Option.bind_eq_bind,
    Option.bind_some, Option.pure_def, Option.none_or, Option.some_or]

theorem read_query_step (name : List Char) (setting : String) :
    readStep ("url.searchParams.set(".toList ++ (quoted name ++ (", ".toList ++
      ((member "env" setting).toList ++ ");".toList)))) = some (.query name setting, []) := by
  have replacement (tail : List Char) :
      readReplacement anyWord ("url.searchParams.set(".toList ++ tail) = none := rfl
  have address (tail : List Char) : readAddress ("url.searchParams.set(".toList ++ tail) = none :=
    rfl
  have header (tail : List Char) : readHeader ("url.searchParams.set(".toList ++ tail) = none :=
    rfl
  have apart : Apart ");".toList := apart_head rfl (by decide)
  rw [readStep, replacement, address, header, readQuery]
  simp only [expect_append, read_quoted, expect_whole, read_setting setting apart,
    Option.bind_eq_bind, Option.bind_some, Option.pure_def, Option.none_or]

theorem step_authorization (attached : authorization? profile = some authorization) :
    requestStep? (authorizationText authorization).toList = attachment? profile := by
  have closing : Apart ");".toList := apart_head rfl (by decide)
  unfold authorization? at attached
  unfold attachment?
  cases auth : profile.auth <;> simp only [auth] at attached <;> cases attached
  case keyHeader =>
    apply step_of_read (by simp [authorizationText])
    have read := read_header_step (read_secret profile.keyVariable closing)
      (profile.apiKeyName?.getD defaultHeader).toList
    simpa [authorizationText, stringLiteral] using read
  case bearer =>
    apply step_of_read (by simp [authorizationText])
    have secret : readSecret (("`Bearer $\x7b".toList ++
        ((member "env" profile.keyVariable).toList ++ "\x7d`".toList)) ++ ");".toList) =
        some (("Bearer ".toList, profile.keyVariable), ");".toList) := by
      simpa using read_bearer profile.keyVariable ");".toList
    have read := read_header_step secret "Authorization".toList
    have name : quoted "Authorization".toList = "'Authorization'".toList := by decide
    rw [name] at read
    simpa [authorizationText] using read
  case keyQuery =>
    apply step_of_read (by simp [authorizationText])
    have read := read_query_step (profile.apiKeyName?.getD defaultQuery).toList
      profile.keyVariable
    simpa [authorizationText, stringLiteral] using read

/-! ## Lines of other kinds -/

/-- A local that is not given an address. -/
theorem foreign_const (identifier : isIdentifier name = true) (begins : text.head? = some c)
    (other : c ≠ 'b') : requestStep? ("const ".toList ++ (name.toList ++
      (" = ".toList ++ text))) = none := by
  obtain ⟨rest, rfl⟩ : ∃ rest, text = c :: rest := by
    cases text with
    | nil => cases begins
    | cons d rest => exact ⟨rest, by cases begins; rfl⟩
  have apart : Apart (" = ".toList ++ c :: rest) := apart_head rfl (by decide)
  have named := read_word identifier apart
  have plain : expect " = buildUrl(" (" = ".toList ++ c :: rest) = none := by
    simp [expect, Text.dropStart?, Ne.symm other]
  have address : readAddress ("const ".toList ++ (name.toList ++ (" = ".toList ++ c :: rest))) =
      none := by
    simp only [readAddress, expect_append, named, plain, Option.bind_eq_bind, Option.bind_some,
      Option.bind_none]
  have replacement (tail : List Char) :
      readReplacement anyWord ("const ".toList ++ tail) = none := rfl
  have header (tail : List Char) : readHeader ("const ".toList ++ tail) = none := rfl
  have query (tail : List Char) : readQuery ("const ".toList ++ tail) = none := rfl
  have kept (tail : List Char) : ("const ".toList ++ tail).dropWhile (· = ' ') =
      "const ".toList ++ tail := rfl
  rw [requestStep?, kept, readStep, address, replacement, header, query]
  rfl

theorem silent_const (identifier : isIdentifier name = true) (single : OneLine text)
    (begins : text.toList.head? = some c) (other : c ≠ 'b') :
    Silent [.line ("const " ++ name ++ " = " ++ text)] := by
  have named := one_line_of_identifier identifier
  apply silent_line (one_line_append.mpr ⟨one_line_between (by decide) named, single⟩)
  simpa only [String.toList_append, List.append_assoc] using
    foreign_const identifier begins other

theorem silent_return (single : OneLine expression) : Silent [returnContent expression] :=
  silent_between (by decide) single

theorem silent_content (single : OneLine text) (begins : "content: ".toList <+: text.toList) :
    Silent [.line text] := by
  obtain ⟨tail, shape⟩ := begins
  have foreign : requestStep? ("content: ".toList ++ tail) = none := rfl
  exact silent_line single (shape ▸ foreign)

/-! ## Snippets -/

section Snippet
open Snippet

theorem silent_guarded (listed : mapping ∈ mappings) (single : OneLine statement)
    (begins : statement.toList.head? = some c) (other : c ∉ leading) :
    Silent [guardedStatement (item .guarded (declarations mappings) mapping) statement] := by
  refine (gathered_guarded listed single requestStep?).trans ?_
  generalize Part.expressions (item .guarded (declarations mappings) mapping).parts = needed
  have foreign : requestStep? (guardText needed ++ statement).toList = none := by
    rcases head_guarded needed statement with guard | bare
    · exact foreign_of_head guard (by decide)
    · exact foreign_of_head (bare.trans begins) other
  rw [foreign]
  rfl

theorem silent_return_block (body : Silent pieces) : Silent [returnBlock pieces] :=
  silent_block_fixed (by decide) body (by decide)

theorem silent_text (template : Template) (noData : String) (mappings : List Mapping) :
    Silent (guardedText template noData
      (mappings.map (item .guarded (declarations mappings)))) := by
  have head : Silent [.blank, .line "const parts = [];"] :=
    silent_blank.cons (silent_unlike (by simp [unlikeLines]))
  have content : Silent [.line ("content: parts.length > 0 ? parts.join('" ++
      separator template ++ "') : " ++ stringLiteral noData)] := by
    have between : OneLine (separator template) := by
      cases template <;> exact one_line_chars (by decide)
    refine silent_content (one_line_append.mpr ⟨?_, one_line_string_literal noData⟩) (by simp)
    exact one_line_between (by decide) between
  have closing := silent_return_block content
  refine (head.append (silent_map ?_)).append (silent_blank.cons closing)
  simp only [List.forall_mem_map]
  intro mapping listed
  have shown := one_line_labelled (one_line_parts listed .guarded) template
  exact silent_guarded (c := 'p') listed (one_line_between (by decide) shown) (by simp) (by decide)

theorem silent_embed (mappings : List Mapping) :
    Silent (guardedEmbed (mappings.map (item .guarded (declarations mappings)))) := by
  have opening : Silent [.blank, .line "const fields = [];"] :=
    silent_blank.cons (silent_unlike (by simp [unlikeLines]))
  have head : Silent embedHead :=
    (silent_fixed (by decide)).cons (silent_unlike (by simp [unlikeLines]))
  have fields : Silent [.line "fields,"] := silent_fixed (by decide)
  have tail : Silent embedTail := silent_fixed (by decide)
  have entries := (head.append fields).append tail
  have embed : Silent [.block "embeds: [\x7b" "\x7d]"
      (embedHead ++ [.line "fields,"] ++ embedTail)] :=
    silent_block (silent_unlike (by simp [unlikeLines])) entries (silent_fixed (by decide))
  have closing := silent_blank.cons (silent_return_block embed)
  refine (opening.append (silent_map ?_)).append closing
  simp only [List.forall_mem_map]
  intro mapping listed
  apply silent_guarded (c := 'f') listed ?_ (by simp) (by decide)
  exact one_line_among (by decide) (one_line_label _) (one_line_parts listed .guarded)

theorem silent_json (mappings : List Mapping) :
    Silent (guardedJson (mappings.map (item .guarded (declarations mappings)))) := by
  have head : Silent [.blank, .line "const selectedData = \x7b\x7d;"] :=
    silent_blank.cons (silent_unlike (by simp [unlikeLines]))
  have content : Silent [.line
      "content: \"```json\\n\" + JSON.stringify(selectedData, null, 2) + \"\\n```\""] :=
    silent_content (one_line_chars (by decide)) (by simp)
  have closing : Silent jsonReturn := silent_blank.cons (silent_return_block content)
  refine (head.append (silent_map ?_)).append closing
  simp only [List.forall_mem_map]
  intro mapping listed
  apply silent_of_head (c := 'i') ?_ (by simp) (by decide)
  have shown := one_line_of_local (local_of_item listed .guarded)
  refine one_line_append.mpr ⟨one_line_append.mpr ⟨?_, shown⟩, one_line_chars (by decide)⟩
  exact one_line_among (by decide) shown (one_line_label _)

theorem silent_code (template : Template) (locale : Locale) (mappings : List Mapping) :
    Silent (code .guarded template locale mappings) := by
  have data : Silent [.line dataLine] := silent_unlike (by simp [unlikeLines])
  have locals : Silent ((declarations mappings).map (declarationLine .guarded)) := by
    refine silent_map fun declaration held => ?_
    have identifier := (local_of_declaration held).identifier
    have object : OneLine "data" := one_line_chars (by decide)
    have single := one_line_access object declaration.path true
    have line : declarationLine .guarded declaration = .line ("const " ++ declaration.binding ++
        " = " ++ (access "data" declaration.path true ++ ";")) := by
      rw [← String.append_assoc]
      rfl
    rw [line]
    exact silent_const identifier (one_line_append.mpr ⟨single, one_line_chars (by decide)⟩)
      (c := 'd') (by simp [access]) (by decide)
  refine (data.append locals).append ?_
  cases template with
  | simpleText | multiLine => exact silent_text _ _ mappings
  | embed => exact silent_embed mappings
  | jsonFormatted => exact silent_json mappings

/-- A bot's snippet does nothing for a request: it only treats the response. -/
theorem silent_snippet (template : Template) (locale : Locale) (mappings : List Mapping) :
    Silent [.line (snippet .guarded template locale mappings)] := by
  by_cases empty : mappings = []
  · rw [Silent, steps_lines, empty, lines_whole]
    decide +kernel
  · rw [Silent, steps_lines, lines_snippet empty]
    exact silent_code template locale mappings

end Snippet

/-! ## Handlers -/

theorem silent_option_reads {options : List BoundOption}
    (locals : ∀ option ∈ options, Local option.binding) : Silent (options.map optionRead) := by
  refine silent_map fun option held => ?_
  have object : OneLine "options" := one_line_chars (by decide)
  have line : optionRead option = .line ("const " ++ option.binding ++ " = " ++
      (member "options" option.name ++ ";")) := by
    rw [← String.append_assoc]
    rfl
  rw [line]
  exact silent_const (locals option held).identifier
    (one_line_append.mpr ⟨one_line_member object option.name, one_line_chars (by decide)⟩)
    (c := 'o') (by simp [member_eq]) (by decide)

theorem silent_function (name : String) (body : requestSteps pieces = steps) :
    requestSteps [.block (handlerOpening (handlerName name)) "\x7d" pieces] = steps := by
  have opening : Silent [.line (handlerOpening (handlerName name))] :=
    silent_between (by decide) (one_line_of_identifier (identifier_handler_name name))
  have closing : Silent [.line "\x7d"] := silent_fixed (by decide)
  rw [steps_block, opening, closing, body]
  simp

/-- The replacements for options, in order. -/
def replacements (options : List BoundOption) : List RequestStep :=
  options.map fun option => .replacement (placeholder option.name).toList option.binding

/-- What the handler of a command does for its request. -/
def requestOf (command : Command) (profile : Profile) : List RequestStep :=
  replacements (boundOptions command) ++
    [.address profile.urlVariable? profile.baseUrl.toList] ++ (attachment? profile).toList

theorem steps_replacements {options : List BoundOption}
    (locals : ∀ option ∈ options, Local option.binding) :
    requestSteps (options.map fun option => .line (endpointReplacement option)) =
      replacements options := by
  induction options with
  | nil => rfl
  | cons option rest ih =>
    rw [List.forall_mem_cons] at locals
    have single : OneLine (endpointReplacement option) :=
      one_line_among (by decide) (one_line_string_literal _) (one_line_of_local locals.1)
    rw [List.map_cons, steps_cons, steps_line single, step_replacement locals.1, ih locals.2]
    rfl

theorem steps_address (profile : Profile) : requestSteps [.line (addressText profile)] =
    [.address profile.urlVariable? profile.baseUrl.toList] := by
  have base : OneLine (baseUrlExpression profile) := by
    have object : OneLine "env" := one_line_chars (by decide)
    unfold baseUrlExpression
    split
    · simp only [one_line_append, one_line_member object, one_line_string_literal, true_and,
        and_true]
      exact one_line_chars (by decide)
    · exact one_line_string_literal _
  have single : OneLine (addressText profile) := one_line_between (by decide) base
  rw [steps_line single, step_address]
  rfl

theorem attachment_none (missing : authorization? profile = none) : attachment? profile = none := by
  unfold authorization? at missing
  unfold attachment?
  cases auth : profile.auth <;> simp only [auth] at missing <;> first | rfl | cases missing

theorem steps_authorization (attached : authorization? profile = some authorization) :
    requestSteps [.line (authorizationText authorization)] = (attachment? profile).toList := by
  have object : OneLine "env" := one_line_chars (by decide)
  have secret := one_line_member object profile.keyVariable
  have single : OneLine (authorizationText authorization) := by
    unfold authorization? at attached
    cases auth : profile.auth <;> simp only [auth] at attached <;> cases attached
    case bearer => exact one_line_between (by decide) secret
    case keyHeader | keyQuery =>
      exact one_line_among (by decide) (one_line_string_literal _) secret
  rw [steps_line single, step_authorization attached]

/-- The request of a handler is read as its steps in order. -/
theorem steps_request_lines {options : List BoundOption}
    (locals : ∀ option ∈ options, Local option.binding) (command : Command) (profile : Profile) :
    requestSteps (requestLines command profile options) = replacements options ++
      [.address profile.urlVariable? profile.baseUrl.toList] ++ (attachment? profile).toList := by
  have endpoint : Silent [.line ("let endpoint = " ++
      stringLiteral (command.endpoint?.getD "") ++ ";")] :=
    silent_between (by decide) (one_line_string_literal _)
  have headers : Silent [.blank, .line "const headers = new Headers();",
      .line "headers.set('Content-Type', 'application/json');"] :=
    silent_blank.cons (Silent.cons (silent_unlike (by simp [unlikeLines]))
      (silent_unlike (by simp [unlikeLines])))
  have fetching : Silent [.blank,
      .line "const apiResponse = await fetch(url, \x7b method: 'GET', headers \x7d);",
      .block "if (!apiResponse.ok) \x7b" "\x7d"
        [.line "throw new Error(`API request failed: $\x7bapiResponse.status\x7d`);"]] :=
    silent_blank.cons (Silent.cons (silent_unlike (by simp [unlikeLines]))
      (silent_block_fixed (by decide) (silent_fixed (by decide)) (by decide)))
  have address : requestSteps [.line ("const url = buildUrl(" ++ baseUrlExpression profile ++
      ", endpoint);")] = [.address profile.urlVariable? profile.baseUrl.toList] :=
    steps_address profile
  have nothing : requestSteps [] = [] := rfl
  rw [requestLines]
  simp only [steps_append, endpoint.steps, headers.steps, fetching.steps,
    steps_replacements locals, address, List.nil_append, List.append_nil, List.append_assoc]
  -- The secret stands in one of two places, before or after the headers are made.
  cases attached : authorization? profile with
  | none => simp only [nothing, attachment_none attached, List.append_nil, Option.toList_none]
  | some authorization =>
    rw [← steps_authorization attached]
    cases authorization <;>
      simp only [nothing, List.nil_append, List.append_nil, authorizationText]

theorem locals_of_command (command : Command) :
    ∀ option ∈ boundOptions command, Local option.binding :=
  fun _ bound => OptionLocals.local_of_bound bound

/-- The treatment of a response does nothing for the request; the user's own code is
passed over. -/
theorem silent_response (style : Style) (command : Command) :
    Silent [.block "return await (async () => \x7b" "\x7d)();" [responseBody style command]] := by
  have body : Silent [responseBody style command] := by
    unfold responseBody
    split
    · rfl
    · exact silent_snippet _ _ _
  exact silent_block_fixed (by decide) body (by decide)

theorem steps_api_handler (style : Style) (command : Command) (profile : Profile) :
    requestSteps [apiHandler style (handlerName command.name) command profile] =
      requestOf command profile := by
  have locals := locals_of_command command
  have report : Silent [.line ("console.error(" ++
      stringLiteral ("Error in " ++ handlerName command.name ++ ":") ++ ", error);")] := by
    have foreign (tail : List Char) : requestStep? ("console.error(".toList ++ tail) = none := rfl
    apply silent_line (one_line_between (by decide) (one_line_string_literal _))
    rw [String.append_assoc, String.toList_append, foreign]
  have apology : Silent [returnContent
      (stringLiteral (Messages.of style.locale).requestFailed)] :=
    silent_return (one_line_string_literal _)
  have failure : Silent [.indented [.line ("console.error(" ++
      stringLiteral ("Error in " ++ handlerName command.name ++ ":") ++ ", error);"),
      returnContent (stringLiteral (Messages.of style.locale).requestFailed)]] := by
    rw [Silent, steps_indented]
    exact report.cons apology
  have closing : Silent [.line "\x7d"] := silent_fixed (by decide)
  -- All that the handler does for its request stands in the attempt.
  have attempt : requestSteps [.block "try \x7b" "\x7d catch (error) \x7b"
      (requestLines command profile (boundOptions command) ++ [.blank,
        .block "return await (async () => \x7b" "\x7d)();" [responseBody style command]])] =
      requestOf command profile := by
    have opens : Silent [.line "try \x7b"] := silent_fixed (by decide)
    have closes : Silent [.line "\x7d catch (error) \x7b"] := silent_fixed (by decide)
    rw [steps_block, opens.steps, closes.steps, steps_append, steps_request_lines locals,
      (silent_blank.cons (silent_response style command)).steps]
    simp [requestOf]
  apply silent_function
  rw [steps_append, (silent_option_reads locals).steps, steps_cons, attempt,
    (failure.cons closing).steps]
  simp

theorem silent_static_handler (command : Command) :
    Silent [staticHandler (handlerName command.name) command] := by
  have locals : ∀ option ∈ (boundOptions command).filter (mentions (staticReply command)),
      Local option.binding :=
    fun option member => locals_of_command command option (List.mem_filter.mp member).1
  apply silent_function
  exact (silent_option_reads locals).append
    (silent_return (one_line_static locals (staticReply command)))

theorem silent_unconfigured_handler (name message : String) :
    Silent [unconfiguredHandler (handlerName name) message] :=
  silent_function name (silent_return (one_line_string_literal message))

/-- What a command does for a request; only a command whose profile is there makes one. -/
def stepsOf (spec : Spec) (command : Command) : List RequestStep :=
  match command.source, spec.profileOf? command with
  | .apiCall, some profile => requestOf command profile
  | _, _ => []

theorem steps_handler (style : Style) (spec : Spec) (command : Command) :
    requestSteps [handler style spec command] = stepsOf spec command := by
  unfold handler stepsOf
  cases command.source with
  | staticText => exact silent_static_handler command
  | apiCall =>
    cases spec.profileOf? command with
    | none => exact silent_unconfigured_handler _ _
    | some profile => exact steps_api_handler style command profile

theorem steps_handler_body (style : Style) (spec : Spec) (command : Command) :
    requestSteps (handlerBody style spec command) = stepsOf spec command := by
  rw [← steps_handler style spec command, handler_eq, silent_function command.name rfl]

/-! ## The whole module -/

theorem silent_heading (spec : Spec) : Silent (heading spec) := by
  have title : Silent [.line ("// Command handlers for " ++ commentText spec.bot.name ++ ".")] := by
    have name : OneLine (commentText spec.bot.name) := fun held => by
      have calm := List.any_eq_false.mp (comment_text_calm spec.bot.name) _ held
      exact calm (by decide)
    exact silent_between (by decide) name
  exact title.cons ((silent_fixed (by decide)).cons silent_blank)

theorem silent_build_url : Silent [buildUrl] := by
  have branch : Silent [.block "if (endpoint.startsWith('?') || endpoint.startsWith('#')) \x7b"
      "\x7d" [.line "return new URL(base + endpoint);"]] :=
    silent_block_fixed (by decide) (silent_fixed (by decide)) (by decide)
  refine silent_block_fixed (by decide) ?_ (by decide)
  exact Silent.cons (silent_unlike (by simp [unlikeLines]))
    (branch.cons (silent_fixed (by decide)))

theorem silent_handler_table (spec : Spec) : Silent [handlerTable spec] := by
  refine silent_block (silent_unlike (by simp [unlikeLines])) (silent_map fun command _ => ?_)
    (silent_fixed (by decide))
  apply silent_of_head (c := '\'') ?_ (by simp [stringLiteral, quoted]) (by decide)
  simp only [one_line_append, one_line_string_literal,
    one_line_of_identifier (identifier_handler_name command.name), true_and, and_true]
  exact ⟨one_line_chars (by decide), one_line_chars (by decide)⟩

theorem silent_dispatch (locale : Locale) : Silent (dispatch locale) := by
  have length : Silent [.line ("const MAX_CONTENT_LENGTH = " ++
      String.ofList (Text.decimal maxContentLength) ++ ";")] := by
    have opening : "const MAX_CONTENT_LENGTH = " = "const " ++ "MAX_CONTENT_LENGTH" ++ " = " := by
      decide
    rw [opening, String.append_assoc]
    exact silent_const (by decide +kernel) (by decide) (c := '2') (by decide) (by decide)
  have comment : Silent [.line "/** Runs the handler registered for `name`. */"] :=
    silent_fixed (by decide)
  have unknown : Silent [.block "if (!Object.hasOwn(handlers, name)) \x7b" "\x7d"
      [returnContent (stringLiteral (Messages.of locale).unknownCommand)]] :=
    silent_block_fixed (by decide) (silent_return (one_line_string_literal _)) (by decide)
  have payload : Silent [.line "const payload = await handlers[name](options ?? \x7b\x7d, env);"] :=
    silent_unlike (by simp [unlikeLines])
  have shortened : Silent [.block ("if (typeof payload?.content === 'string' && " ++
      "payload.content.length > MAX_CONTENT_LENGTH) \x7b") "\x7d"
      [.line "payload.content = payload.content.slice(0, MAX_CONTENT_LENGTH - 3) + '...';"]] := by
    refine silent_block ?_ (silent_fixed (by decide)) (silent_fixed (by decide))
    refine silent_of_head (c := 'i') ?_ (by simp) (by decide)
    exact one_line_append.mpr ⟨one_line_chars (by decide), one_line_chars (by decide)⟩
  refine length.cons (silent_blank.cons (comment.cons (silent_block
    (silent_unlike (by simp [unlikeLines])) ?_ (silent_fixed (by decide)))))
  exact unknown.cons (payload.cons (shortened.cons (silent_fixed (by decide))))

/-- A module does for requests what its handlers do, in the order of the commands. -/
theorem steps_module (style : Style) (spec : Spec) :
    requestSteps (commandCode style spec) = spec.commands.flatMap (stepsOf spec) := by
  have helper : Silent (if callsApi spec then [buildUrl, .blank] else []) := by
    split
    · exact silent_build_url.cons silent_blank
    · rfl
  have table : Silent [handlerTable spec, .blank] :=
    (silent_handler_table spec).cons silent_blank
  have handlers : requestSteps (spec.commands.flatMap fun command =>
      [handler style spec command, .blank]) = spec.commands.flatMap (stepsOf spec) := by
    refine (gathered_flat_map ..).trans (List.flatMap_congr fun command _ => ?_)
    refine (steps_cons _ _).trans ?_
    rw [steps_handler, silent_blank.steps, List.append_nil]
  rw [commandCode]
  simp only [steps_append, (silent_heading spec).steps, helper.steps, handlers, table.steps,
    (silent_dispatch style.locale).steps, List.nil_append, List.append_nil]

end Botwright.RequestReading
