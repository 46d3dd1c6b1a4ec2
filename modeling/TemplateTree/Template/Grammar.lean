import TemplateTree.Template.Peg

/-!
# The grammar of templates

Expressions, tags and the content that may stand between them.  Each kind of
content is a list of the constructs allowed there: a block may call on the block
it overrides, a loop may be left, a macro may hold neither blocks nor macros.
-/

namespace TemplateTree.Template

inductive Rule where
  | int | float | string | boolean
  | opOr | opAnd | opNot
  | opLte | opGte | opLt | opGt | opIneq | opEq
  | opPlus | opMinus | opTimes | opSlash | opModulo
  | ident | dottedIdent | squareBrackets | pathIdent
  | kwarg | fnCall | filter
  | testArg | testCall | test | testNot | macroCall
  | basicVal | basicOp | basicExpr | basicExprFilter
  | stringConcat | stringExprFilter
  | comparisonVal | comparisonOp | comparisonExpr
  | inContainer | inCond | logicVal | logicExpr
  | array | arrayFilter | stringArray
  | macroDefArg | macroDef
  | variableStart | variableEnd | tagStart | tagEnd | commentStart | commentEnd | blockStart
  | ignoreMissing
  | includeTag | importTag | extendsTag | variableTag | superTag | setTag | setGlobalTag
  | commentTag | blockTag | macroTag | ifTag | elifTag | elseTag | forTag | filterTag
  | breakTag | continueTag | endblockTag | endmacroTag | endifTag | endforTag | endfilterTag
  | rawTag | endrawTag
  | rawText | raw | text
  | contentIf | blockIf | macroIf | forIf | forBlockIf
  | forLoop | blockFor | filterSection | blockFilter | block | macroDefinition
  | content | blockContent | macroContent | forContent | blockForContent
  | template | eoi
  deriving DecidableEq, Repr

namespace Rule

def ref (r : Rule) : Peg Rule := .rule r

def lit (t : String) : Peg Rule := .text t.toList

def nameChar : Peg Rule :=
  .alts [.range 'a' 'z', .range 'A' 'Z', lit "_", .range '0' '9']

/-- The characters that a name may begin with. -/
def nameStart : Peg Rule :=
  .alts [.range 'a' 'z', .range 'A' 'Z', lit "_"]

def digit : Peg Rule := .range '0' '9'

def between (quote : Peg Rule) : Peg Rule :=
  .seqs [quote, .star (.upTo quote), quote]

def listOf (a : Peg Rule) : Peg Rule :=
  .seq a (.star (.seq (lit ",") a))

def namedArgs : Peg Rule :=
  .seqs [lit "(", .opt (.seq (listOf (ref kwarg)) (.opt (lit ","))), lit ")"]

def concatPart : Peg Rule :=
  .alts [ref fnCall, ref float, ref int, ref string, ref pathIdent]

def wordTag (word : String) (rest : List (Peg Rule)) : Peg Rule :=
  .seqs ([ref tagStart, lit word] ++ rest ++ [ref tagEnd])

def branches (body : Peg Rule) : Peg Rule :=
  .seqs [ref ifTag, .star body, .star (.seq (ref elifTag) (.star body)),
    .opt (.seq (ref elseTag) (.star body)), ref endifTag]

def loopOf (body : Peg Rule) : Peg Rule :=
  .seqs [ref forTag, .star body, .opt (.seq (ref elseTag) (.star body)), ref endforTag]

def sectionOf (body : Peg Rule) : Peg Rule :=
  .seqs [ref filterTag, .star body, ref endfilterTag]

def operand : Peg Rule :=
  .alt (.seqs [lit "(", ref basicExpr, lit ")"]) (ref basicVal)

/-- The constructs allowed in every kind of content, before those of its own. -/
def common : List (Peg Rule) :=
  [ref includeTag, ref variableTag, ref commentTag, ref setTag, ref setGlobalTag]

end Rule

open Rule

def grammar : Rule → PegRule Rule
  | .int => ⟨.solid, .seq (.opt (lit "-")) (.alt (lit "0") (.seq (.range '1' '9') (.star digit)))⟩
  | .float =>
    ⟨.solid, .seq (.opt (lit "-")) (.alt
      (.seqs [lit "0", lit ".", .plus digit])
      (.seqs [.range '1' '9', .star digit, lit ".", .plus digit]))⟩
  | .string =>
    ⟨.solid, .alts [between (lit "\""), between (lit "'"), between (.text [Char.ofNat 0x60])]⟩
  | .boolean => ⟨.normal, .alts [lit "true", lit "false", lit "True", lit "False"]⟩
  | .opOr => ⟨.solid, .seq (lit "or") (.alts [lit " ", lit "\t", lit "\r", lit "\n"])⟩
  | .opAnd => ⟨.solid, .seq (lit "and") (.alts [lit " ", lit "\t", lit "\r", lit "\n"])⟩
  | .opNot => ⟨.solid, .seq (lit "not") (.alts [lit " ", lit "\t", lit "\r", lit "\n"])⟩
  | .opLte => ⟨.normal, lit "<="⟩
  | .opGte => ⟨.normal, lit ">="⟩
  | .opLt => ⟨.normal, lit "<"⟩
  | .opGt => ⟨.normal, lit ">"⟩
  | .opIneq => ⟨.normal, lit "!="⟩
  | .opEq => ⟨.normal, lit "=="⟩
  | .opPlus => ⟨.normal, lit "+"⟩
  | .opMinus => ⟨.normal, lit "-"⟩
  | .opTimes => ⟨.normal, lit "*"⟩
  | .opSlash => ⟨.normal, lit "/"⟩
  | .opModulo => ⟨.normal, lit "%"⟩
  | .ident => ⟨.solid, .seq nameStart (.star nameChar)⟩
  | .dottedIdent =>
    ⟨.solid, .seqs [nameStart, .star nameChar, .star (.seq (lit ".") (.plus nameChar))]⟩
  | .squareBrackets =>
    ⟨.solid, .seqs [lit "[", .alts [ref .int, ref .string, ref .pathIdent], lit "]"]⟩
  | .pathIdent =>
    ⟨.solid, .seq (ref .dottedIdent)
      (.star (.alt (.seq (lit ".") (.plus nameChar)) (ref .squareBrackets)))⟩
  | .kwarg => ⟨.normal, .seqs [ref .ident, lit "=", .alt (ref .logicExpr) (ref .arrayFilter)]⟩
  | .fnCall => ⟨.free, .seq (ref .ident) namedArgs⟩
  | .filter => ⟨.normal, .seq (lit "|") (.alt (ref .fnCall) (ref .ident))⟩
  | .testArg => ⟨.normal, .alt (ref .logicExpr) (ref .arrayFilter)⟩
  | .testCall =>
    ⟨.free, .seq (ref .ident) (.opt (.seqs [lit "(", listOf (ref .testArg), lit ")"]))⟩
  | .testNot => ⟨.normal, .seqs [ref .pathIdent, lit "is", lit "not", ref .testCall]⟩
  | .test => ⟨.normal, .seqs [ref .pathIdent, lit "is", ref .testCall]⟩
  | .macroCall => ⟨.free, .seqs [ref .ident, lit "::", ref .ident, namedArgs]⟩
  | .basicVal =>
    ⟨.silent, .alts [ref .boolean, ref .testNot, ref .test, ref .macroCall, ref .fnCall,
      ref .pathIdent, ref .float, ref .int]⟩
  | .basicOp =>
    ⟨.silent, .alts [ref .opPlus, ref .opMinus, ref .opTimes, ref .opSlash, ref .opModulo]⟩
  | .basicExpr => ⟨.normal, .seq operand (.star (.seq (ref .basicOp) operand))⟩
  | .basicExprFilter => ⟨.free, .seq (ref .basicExpr) (.star (ref .filter))⟩
  | .stringConcat => ⟨.normal, .seq concatPart (.plus (.seq (lit "~") concatPart))⟩
  | .stringExprFilter =>
    ⟨.free, .seq (.alt (ref .stringConcat) (ref .string)) (.star (ref .filter))⟩
  | .comparisonVal =>
    ⟨.normal, .seq (ref .basicExprFilter) (.star (.seq (ref .basicOp) (ref .basicExprFilter)))⟩
  | .comparisonOp =>
    ⟨.silent, .alts [ref .opLte, ref .opGte, ref .opGt, ref .opLt, ref .opEq, ref .opIneq]⟩
  | .comparisonExpr =>
    ⟨.normal, .seq (.alt (ref .stringExprFilter) (ref .comparisonVal))
      (.opt (.seq (ref .comparisonOp) (.alt (ref .stringExprFilter) (ref .comparisonVal))))⟩
  | .inContainer =>
    ⟨.normal, .alts [ref .arrayFilter, ref .stringExprFilter, ref .pathIdent]⟩
  | .inCond =>
    ⟨.free, .seqs [.alt (ref .stringExprFilter) (ref .basicExprFilter), .opt (ref .opNot),
      lit "in", ref .inContainer]⟩
  | .logicVal =>
    ⟨.free, .alt (.seq (.opt (ref .opNot)) (.alt (ref .inCond) (ref .comparisonExpr)))
      (.seqs [lit "(", ref .logicExpr, lit ")"])⟩
  | .logicExpr =>
    ⟨.free, .seq (ref .logicVal) (.star (.seq (.alt (ref .opOr) (ref .opAnd)) (ref .logicVal)))⟩
  | .array =>
    ⟨.free, .seqs [lit "[", .opt (listOf (ref .logicVal)), .opt (lit ","), lit "]"]⟩
  | .arrayFilter => ⟨.free, .seq (ref .array) (.star (ref .filter))⟩
  | .stringArray =>
    ⟨.free, .seqs [lit "[", .opt (listOf (ref .string)), .opt (lit ","), lit "]"]⟩
  | .macroDefArg =>
    ⟨.normal, .alt (.seqs [ref .ident, lit "=",
      .alts [ref .boolean, ref .string, ref .float, ref .int]]) (ref .ident)⟩
  | .macroDef =>
    ⟨.silent, .seqs [ref .ident, lit "(", .opt (listOf (ref .macroDefArg)), lit ")"]⟩
  | .variableStart => ⟨.normal, .alt (lit "\x7b\x7b-") (lit "\x7b\x7b")⟩
  | .variableEnd => ⟨.normal, .alt (lit "-\x7d\x7d") (lit "\x7d\x7d")⟩
  | .tagStart => ⟨.normal, .alt (lit "\x7b%-") (lit "\x7b%")⟩
  | .tagEnd => ⟨.normal, .alt (lit "-%\x7d") (lit "%\x7d")⟩
  | .commentStart => ⟨.normal, .alt (lit "\x7b#-") (lit "\x7b#")⟩
  | .commentEnd => ⟨.normal, .alt (lit "-#\x7d") (lit "#\x7d")⟩
  | .blockStart => ⟨.silent, .alts [ref .variableStart, ref .tagStart, ref .commentStart]⟩
  | .ignoreMissing =>
    ⟨.solid, .seqs [lit "ignore", .star (.alts [lit " ", lit "\t", lit "\r", lit "\n"]),
      lit "missing"]⟩
  | .includeTag =>
    ⟨.free, wordTag "include" [.alt (ref .string) (ref .stringArray), .opt (ref .ignoreMissing)]⟩
  | .importTag => ⟨.free, wordTag "import" [ref .string, lit "as", ref .ident]⟩
  | .extendsTag => ⟨.free, wordTag "extends" [ref .string]⟩
  | .variableTag =>
    ⟨.free, .seqs [ref .variableStart, .alt (ref .logicExpr) (ref .arrayFilter),
      ref .variableEnd]⟩
  | .superTag => ⟨.free, .seqs [ref .variableStart, lit "super()", ref .variableEnd]⟩
  | .setTag =>
    ⟨.free, wordTag "set" [ref .ident, lit "=", .alt (ref .logicExpr) (ref .arrayFilter)]⟩
  | .setGlobalTag =>
    ⟨.free, wordTag "set_global"
      [ref .ident, lit "=", .alt (ref .logicExpr) (ref .arrayFilter)]⟩
  | .commentTag =>
    ⟨.tight, .seqs [ref .commentStart, .star (.upTo (ref .commentEnd)), ref .commentEnd]⟩
  | .blockTag => ⟨.free, wordTag "block" [ref .ident]⟩
  | .macroTag => ⟨.free, wordTag "macro" [ref .macroDef]⟩
  | .ifTag => ⟨.free, wordTag "if" [ref .logicExpr]⟩
  | .elifTag => ⟨.free, wordTag "elif" [ref .logicExpr]⟩
  | .elseTag => ⟨.free, wordTag "else" []⟩
  | .forTag =>
    ⟨.free, wordTag "for" [ref .ident, .opt (.seq (lit ",") (ref .ident)), lit "in",
      .alt (ref .basicExprFilter) (ref .arrayFilter)]⟩
  | .filterTag => ⟨.free, wordTag "filter" [.alt (ref .fnCall) (ref .ident)]⟩
  | .breakTag => ⟨.free, wordTag "break" []⟩
  | .continueTag => ⟨.free, wordTag "continue" []⟩
  | .endblockTag => ⟨.free, wordTag "endblock" [.opt (ref .ident)]⟩
  | .endmacroTag => ⟨.free, wordTag "endmacro" [.opt (ref .ident)]⟩
  | .endifTag => ⟨.free, wordTag "endif" []⟩
  | .endforTag => ⟨.free, wordTag "endfor" []⟩
  | .endfilterTag => ⟨.free, wordTag "endfilter" []⟩
  | .rawTag => ⟨.free, wordTag "raw" []⟩
  | .endrawTag => ⟨.free, wordTag "endraw" []⟩
  | .rawText => ⟨.tight, .plus (.upTo (ref .endrawTag))⟩
  | .raw => ⟨.tight, .seqs [ref .rawTag, .opt (ref .rawText), ref .endrawTag]⟩
  | .text => ⟨.tight, .plus (.upTo (ref .blockStart))⟩
  | .contentIf => ⟨.tight, branches (ref .content)⟩
  | .blockIf => ⟨.tight, branches (ref .blockContent)⟩
  | .macroIf => ⟨.tight, branches (ref .macroContent)⟩
  | .forIf => ⟨.tight, branches (ref .forContent)⟩
  | .forBlockIf => ⟨.tight, branches (ref .blockForContent)⟩
  | .forLoop => ⟨.tight, loopOf (ref .forContent)⟩
  | .blockFor => ⟨.tight, loopOf (ref .blockForContent)⟩
  | .filterSection => ⟨.tight, sectionOf (ref .content)⟩
  | .blockFilter => ⟨.tight, sectionOf (ref .blockContent)⟩
  | .block => ⟨.tight, .seqs [ref .blockTag, .star (ref .blockContent), ref .endblockTag]⟩
  | .macroDefinition =>
    ⟨.tight, .seqs [ref .macroTag, .star (ref .macroContent), ref .endmacroTag]⟩
  | .content =>
    ⟨.silent, .alts (common ++ [ref .importTag, ref .macroDefinition, ref .block, ref .contentIf,
      ref .forLoop, ref .filterSection, ref .raw, ref .text])⟩
  | .blockContent =>
    ⟨.silent, .alts ([ref .superTag] ++ common ++ [ref .block, ref .blockIf, ref .blockFor,
      ref .blockFilter, ref .raw, ref .text])⟩
  | .macroContent =>
    ⟨.silent, .alts (common ++ [ref .macroIf, ref .forLoop, ref .filterSection, ref .raw,
      ref .text])⟩
  | .forContent =>
    ⟨.silent, .alts (common ++ [ref .forIf, ref .forLoop, ref .breakTag, ref .continueTag,
      ref .filterSection, ref .raw, ref .text])⟩
  | .blockForContent =>
    ⟨.silent, .alts ([ref .superTag] ++ common ++ [ref .forBlockIf, ref .blockFor, ref .breakTag,
      ref .continueTag, ref .blockFilter, ref .raw, ref .text])⟩
  | .template =>
    ⟨.tight, .seqs [.start, .star (ref .commentTag), .opt (ref .extendsTag),
      .star (ref .content), ref .eoi]⟩
  | .eoi => ⟨.normal, .stop⟩

end TemplateTree.Template
