import ModularGrammar.GrammarModule

/-! # The module of syntax rules

Definitions, kinds, types, patterns and expressions. Identifiers, strings and numbers are imported.

* `commaList`, `bracketedOpt`, `keywordClause`, `bracedDefn`: the shapes that recur;
* `syntaxRules`: the module.
-/

set_option autoImplicit false

namespace ModularGrammar.Catalog

/-- Items parted by commas: none, one, or one before a comma and a further list. -/
def commaList (name item : String) : Production :=
  ⟨name, [.empty, .ref item, .seq [.ref item, .lit ",", .ref name]]⟩

def bracketedOpt (name inner : String) : Production :=
  ⟨name, [.empty, .seq [.lit "[", .ref inner, .lit "]"]]⟩

def keywordClause (name keyword : String) : Production :=
  ⟨name, [.empty, .seq [.lit keyword, .ref "expr"]]⟩

def bracedDefn (keyword list : String) : Phrase :=
  .seq [.lit keyword, .ref "big-ident", .ref "big-param-list-opt", .lit "\x7b", .ref list, .lit "\x7d"]

def syntaxRules : GrammarModule where
  name := "syntax"
  grammar := ⟨[
    ⟨"program", [.empty, .seq [.ref "top-defn", .ref "program"]]⟩,
    ⟨"top-defn", [.ref "type-defn", .ref "struct-defn", .ref "enum-defn", .ref "fn-defn"]⟩,
    ⟨"type-defn", [.seq [.lit "type", .ref "big-ident", .ref "big-param-list-opt", .lit "=",
      .ref "type"]]⟩,
    ⟨"struct-defn", [bracedDefn "struct" "field-list"]⟩,
    ⟨"enum-defn", [bracedDefn "enum" "ctor-list"]⟩,
    ⟨"fn-defn", [.seq [.lit "fn", .ref "ident", .ref "big-param-list-opt", .lit "(", .ref "param-list",
      .lit ")", .lit ":", .ref "type", .ref "requires-clause", .ref "ensures-clause", .ref "block"]]⟩,
    bracketedOpt "big-param-list-opt" "big-param-list",
    commaList "big-param-list" "big-param",
    ⟨"big-param", [.seq [.ref "big-ident", .lit ":", .ref "kind"]]⟩,
    ⟨"kind", [.seq [.ref "kind-hd", .ref "kind-tl"]]⟩,
    ⟨"kind-hd", [.ref "big-ident", .seq [.lit "(", .ref "kind-list", .lit ")"]]⟩,
    ⟨"kind-tl", [.empty, .seq [.lit "->", .ref "kind"]]⟩,
    commaList "kind-list" "kind",
    ⟨"type", [.seq [.ref "type-hd", .ref "type-tl"]]⟩,
    ⟨"type-hd", [.ref "big-ident", .seq [.lit "(", .ref "type-list", .lit ")"]]⟩,
    ⟨"type-tl", [.empty, .seq [.lit "->", .ref "type"], .seq [.lit "affects", .ref "effect"]]⟩,
    commaList "type-list" "type",
    ⟨"field-list", [.empty, .seq [.ref "ident", .lit ":", .ref "type"], .seq [.ref "ident", .lit ":",
      .ref "type", .lit ",", .ref "field-list"]]⟩,
    commaList "ctor-list" "ctor",
    ⟨"ctor", [.seq [.ref "ident", .lit "(", .ref "type", .lit ")"]]⟩,
    ⟨"effect", [.seq [.lit "\x7b", .ref "effect-list", .lit "\x7d"]]⟩,
    commaList "effect-list" "big-ident",
    commaList "param-list" "param",
    ⟨"param", [.seq [.ref "ident", .lit ":", .ref "type"]]⟩,
    keywordClause "requires-clause" "requires",
    keywordClause "ensures-clause" "ensures",
    ⟨"block", [.seq [.lit "\x7b", .ref "block-inner", .lit "\x7d"]]⟩,
    ⟨"block-inner", [.empty, .ref "expr", .seq [.ref "stmt", .ref "block-inner"]]⟩,
    ⟨"stmt", [.seq [.lit "let", .ref "pat", .lit "=", .ref "expr"]]⟩,
    ⟨"pat", [.seq [.ref "pat-hd", .ref "pat-tl"]]⟩,
    ⟨"pat-hd", [.lit "_", .ref "string", .ref "number", .seq [.lit "(", .ref "pat-list", .lit ")"],
      .seq [.ref "big-ident", .lit "\x7b", .ref "field-pat-list", .lit "\x7d"], .seq [.ref "qual-ident",
      .lit "(", .ref "pat", .lit ")"], .ref "ident"]⟩,
    commaList "pat-list" "pat",
    ⟨"pat-tl", [.empty, .seq [.lit "|", .ref "pat"], .seq [.lit ":", .ref "type"]]⟩,
    commaList "field-pat-list" "field-pat",
    ⟨"field-pat", [.ref "ident", .seq [.ref "ident", .lit ":", .ref "pat"]]⟩,
    ⟨"expr", [.seq [.ref "expr-hd", .ref "expr-tl-list"]]⟩,
    ⟨"expr-hd", [.ref "string", .ref "number", .seq [.lit "(", .ref "expr-list", .lit ")"],
      .seq [.ref "big-ident", .ref "type-effect-args-opt", .lit "\x7b", .ref "field-expr-list",
      .lit "\x7d"], .seq [.ref "qual-ident", .ref "call-opt"], .seq [.lit "return", .ref "expr"],
      .seq [.lit "match", .ref "expr", .lit "\x7b", .ref "arm-list", .lit "\x7d"], .ref "block"]⟩,
    ⟨"expr-tl-list", [.empty, .seq [.lit ".", .ref "ident", .ref "call-opt", .ref "expr-tl-list"]]⟩,
    ⟨"qual-ident", [.ref "ident", .seq [.ref "big-ident", .lit "::", .ref "ident"]]⟩,
    ⟨"call-opt", [.empty, .seq [.ref "type-effect-args-opt", .lit "(", .ref "expr-list", .lit ")"]]⟩,
    bracketedOpt "type-effect-args-opt" "type-effect-list",
    commaList "type-effect-list" "type-effect",
    ⟨"type-effect", [.ref "type", .ref "effect"]⟩,
    commaList "expr-list" "expr",
    commaList "field-expr-list" "field-expr",
    ⟨"field-expr", [.ref "ident", .seq [.ref "ident", .lit ":", .ref "expr"]]⟩,
    ⟨"arm-list", [.empty, .seq [.ref "arm", .ref "arm-list"]]⟩,
    ⟨"arm", [.seq [.ref "pat", .ref "block"]]⟩]⟩
  interface := .ofLists ["big-ident", "ident", "number", "string"] ["program"]

end ModularGrammar.Catalog
