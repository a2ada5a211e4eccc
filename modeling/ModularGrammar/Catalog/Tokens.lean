import ModularGrammar.GrammarModule

/-! # The module of lexical tokens

Comments, identifiers, strings and numbers. The module is self-contained: it imports nothing. The
production `number` is used by `ident-tail-one`, so it is no export, although other modules need it too.
-/

set_option autoImplicit false

namespace ModularGrammar.Catalog

def tokens : GrammarModule where
  name := "tokens"
  grammar := ⟨[
    ⟨"comment", [.seq [.lit "//", .ref "comment-tail"]]⟩,
    ⟨"comment-tail", [.comment "any character except newline"]⟩,
    ⟨"big-ident", [.seq [.ref "upper", .ref "big-ident-tail"]]⟩,
    ⟨"big-ident-tail", [.empty, .seq [.ref "big-ident-tail-one", .ref "big-ident-tail"]]⟩,
    ⟨"big-ident-tail-one", [.ref "upper", .ref "lower", .ref "digit"]⟩,
    ⟨"ident", [.seq [.ref "lower", .ref "ident-tail"]]⟩,
    ⟨"ident-tail", [.empty, .seq [.ref "ident-tail-one", .ref "ident-tail"]]⟩,
    ⟨"ident-tail-one", [.ref "lower", .ref "number", .lit "_"]⟩,
    ⟨"string", [.seq [.lit "\"", .ref "string-inner", .lit "\""]]⟩,
    ⟨"string-inner", [.empty, .seq [.ref "string-inner-one", .ref "string-inner"]]⟩,
    ⟨"string-inner-one", [.seq [.comment "any character except", .lit "\""]]⟩,
    ⟨"number", [.seq [.ref "digit", .ref "number-tail"]]⟩,
    ⟨"number-tail", [.empty, .seq [.ref "number-tail-one", .ref "number-tail"]]⟩,
    ⟨"number-tail-one", [.ref "digit", .lit "_"]⟩,
    ⟨"upper", [.lit "A", .lit "B", .comment "...", .lit "Z"]⟩,
    ⟨"lower", [.lit "a", .lit "b", .comment "...", .lit "z"]⟩,
    ⟨"digit", [.lit "0", .lit "1", .comment "...", .lit "9"]⟩]⟩
  interface := .ofLists [] ["big-ident", "comment", "ident", "string"]

end ModularGrammar.Catalog
