import ScriptGate.Pattern.Matcher
import ScriptGate.Pattern.Reader
import ScriptGate.Vocabulary

/-! # Catalogs

A catalog says which scripts are safe: the patterns that no script may match, the operations that
need a confirmation, and the greatest length of a script. Its patterns ignore case whatever they
were made from, and its length is positive. A catalog is changed by overrides, which make a new
one. -/

namespace ScriptGate

/-- A pattern of a blacklist. It is matched without regard to case. -/
structure BlacklistEntry where
  /-- The written form of the pattern. -/
  source : String
  /-- Whether line anchors match at every line. -/
  multiline : Bool
  /-- Whether the full stop matches a line feed. -/
  dotAll : Bool
  pattern : Pattern
  /-- The pattern is what its written form says. -/
  isRead : Pattern.read source.toList = .ok pattern
deriving DecidableEq

def BlacklistEntry.flags (entry : BlacklistEntry) : PatternFlags :=
  ⟨true, entry.multiline, entry.dotAll⟩

/-- Whether a script matches a pattern of a blacklist. -/
def BlacklistEntry.occursIn (entry : BlacklistEntry) (script : List Char) : Bool :=
  entry.pattern.occursIn entry.flags script

/-- What a pattern of a blacklist is made from: a written form, alone or with flags. -/
structure PatternSource where
  /-- The written form of the pattern. -/
  source : String
  flags : PatternFlags
deriving DecidableEq, Repr

/-- A written form without flags. -/
def PatternSource.plain (source : String) : PatternSource := ⟨source, ⟨false, false, false⟩⟩

/-- The pattern of a blacklist that is made from a written form and flags. -/
def PatternSource.entry (origin : PatternSource) : Except PatternError BlacklistEntry :=
  match isRead : Pattern.read origin.source.toList with
  | .ok pattern =>
    .ok { source := origin.source
          multiline := origin.flags.multiline
          dotAll := origin.flags.dotAll
          pattern
          isRead }
  | .error error => .error error

/-- The written form and flags of a pattern of a blacklist. -/
def BlacklistEntry.origin (entry : BlacklistEntry) : PatternSource := ⟨entry.source, entry.flags⟩

/-- The patterns of a blacklist, in order, unless one of them cannot be read. -/
def readEntries : List PatternSource → Except PatternError (List BlacklistEntry)
  | [] => .ok []
  | origin :: origins => do
    let entry ← origin.entry
    let entries ← readEntries origins
    return entry :: entries

/-- The default patterns: calls that evaluate text, other record interfaces, access to files, the
network and the host, and the loading of modules. -/
def defaultBlacklist : List String :=
  ["gs\\.executeNow\\s*\\(", "gs\\.eval\\s*\\(", "eval\\s*\\(", "Function\\s*\\(",
   "GlideRecord\\s*\\(", "GlideAggregate\\s*\\(", "GlideSysAttachment", "GlideScriptedProcessor",
   "XMLDocument", "SOAPMessage", "require\\s*\\(", "import\\s+", "\\.readLine\\(", "\\.write\\(",
   "\\.getFile\\(", "\\.setFile\\(", "GlideHTTPRequest", "RESTMessageV2", "SOAPMessageV2",
   "new\\s+Packages\\.", "java\\.io\\.", "java\\.net\\.", "java\\.lang\\.Runtime",
   "XMLHttpRequest", "fetch\\s*\\("]

def defaultMaxLength : Nat := 10000

/-- The rules by which scripts are screened. -/
structure Catalog where
  /-- The patterns that make a script unsafe. -/
  blacklist : List BlacklistEntry
  /-- The operations that need a confirmation. -/
  confirmation : List String
  /-- The most characters a script may have. -/
  maxLength : Nat
  maxLength_pos : 0 < maxLength
deriving DecidableEq

def Catalog.standard : Catalog where
  blacklist := defaultBlacklist.filterMap fun source => (PatternSource.plain source).entry.toOption
  confirmation := confirmationOperations
  maxLength := defaultMaxLength
  maxLength_pos := by decide

/-- New values for some parts of a catalog. -/
structure Overrides where
  /-- The patterns, if they change. -/
  blacklist : Option (List PatternSource)
  /-- The operations that need a confirmation, if they change. -/
  confirmation : Option (List String)
  /-- The length limit, if it changes. -/
  maxLength : Option Int
  /-- Names that no part of a catalog has. -/
  unknown : List String
deriving DecidableEq, Repr

/-- No new values. -/
def Overrides.none : Overrides := ⟨.none, .none, .none, []⟩

/-- Why a catalog cannot be made or changed. -/
inductive CatalogError where
  /-- A new catalog was given a part that catalogs do not have. -/
  | unknownPart (name : String)
  /-- Overrides name parts that catalogs do not have. -/
  | unknownParts (names : List String)
  /-- A pattern cannot be read. -/
  | invalidPattern (error : PatternError)
  /-- The length limit is not positive. -/
  | lengthNotPositive (length : Int)
  /-- A part of an existing catalog was assigned. -/
  | immutable (name : String)
deriving DecidableEq, Repr

def CatalogError.message : CatalogError → String
  | .unknownPart name => s!"PatternCatalog.__init__() got an unexpected keyword argument '{name}'"
  | .unknownParts names => "Unknown catalog field(s): " ++ ", ".intercalate names
  | .invalidPattern error => error.message
  | .lengthNotPositive length => s!"max_script_length must be positive, got {length}"
  | .immutable name => s!"cannot assign to field '{name}'"

namespace Catalog

def build (blacklist : List PatternSource) (confirmation : List String) (maxLength : Int) :
    Except CatalogError Catalog :=
  match readEntries blacklist with
  | .error error => .error (.invalidPattern error)
  | .ok blacklist =>
    if positive : 0 < maxLength then
      .ok { blacklist, confirmation, maxLength := maxLength.toNat
            maxLength_pos := by omega }
    else .error (.lengthNotPositive maxLength)

/-- The catalog with the new values, and otherwise the values of another catalog. -/
def replaced (catalog : Catalog) (overrides : Overrides) : Except CatalogError Catalog :=
  build (overrides.blacklist.getD (catalog.blacklist.map (·.origin)))
    (overrides.confirmation.getD catalog.confirmation)
    (overrides.maxLength.getD catalog.maxLength)

/-- A new catalog with the given parts, and otherwise the default ones. -/
def create (parts : Overrides) : Except CatalogError Catalog :=
  match parts.unknown with
  | [] => standard.replaced parts
  | name :: _ => .error (.unknownPart name)

/-- A new catalog with some parts replaced. -/
def merge (catalog : Catalog) (overrides : Overrides) : Except CatalogError Catalog :=
  match overrides.unknown with
  | [] => catalog.replaced overrides
  | names => .error (.unknownParts (names.mergeSort fun first second => decide (first ≤ second)))

/-- The outcome of an assignment to a part: catalogs do not change. -/
def assign (_ : Catalog) (name : String) : Except CatalogError Catalog := .error (.immutable name)

end Catalog

end ScriptGate
