import ComponentOutline.Console.Lines

/-!
# Trees on a console

A tree is printed with one entry below the other.  Guides in front of an entry lead
to it from the entry above; further lines of a label go on under the guide.
-/

namespace ComponentOutline
namespace Console

namespace Tree

/-- Lines with one guide in front of the first line and another one in front of the
others. -/
def guided (first other : Text) : List Text → List Text
  | [] => []
  | line :: rest => (first ++ line) :: rest.map (other ++ ·)

/-- The guide to an entry that others follow. -/
def fork : Text := Text.ofString "├── "

/-- The guide to the last entry. -/
def corner : Text := Text.ofString "└── "

/-- The guide past an entry that others follow. -/
def passing : Text := Text.ofString "│   "

/-- The guide past the last entry. -/
def blank : Text := Text.ofString "    "

mutual

/-- The lines of a tree behind guides. -/
def lines (first other : Text) : Tree → Except TagFault (List Text)
  | .mk label entries => do
      let labelLines ← Console.lines label
      let entryLines ← entriesLines other entries
      return guided first other labelLines ++ entryLines

/-- The lines of entries behind a guide. -/
def entriesLines (guide : Text) : List Tree → Except TagFault (List Text)
  | [] => .ok []
  | entry :: rest => do
      let last := rest.isEmpty
      let entryLines ←
        lines (guide ++ if last then corner else fork) (guide ++ if last then blank else passing)
          entry
      let restLines ← entriesLines guide rest
      return entryLines ++ restLines

end

/-- What is printed for a tree. -/
def printed (tree : Tree) : Except TagFault Text :=
  (tree.lines [] []).map joined

end Tree

/-! ## The printer -/

/-- Whether UTF-8 has bytes for a code point: it has none for surrogates. -/
def isEncodable (point : CodePoint) : Bool :=
  !point.isSurrogate

/-- Puts a text out on a stream that has bytes for some code points only. -/
def encoded (encodes : CodePoint → Bool) (text : Text) : Except PrintFault Text :=
  if text.all encodes then .ok text else .error (.unencodable text)

/-- The printer of a stream that has bytes for some code points only. -/
def printer (encodes : CodePoint → Bool) : Printer where
  escape := Tagged.escape
  text text := do encoded encodes (← (printed text).mapError .tag)
  tree tree := do encoded encodes (← tree.printed.mapError .tag)

end Console
end ComponentOutline
