/-
**Pieces of a text.**

A text is cut at separators, its pieces are changed, and the separators stay where they are.
-/

namespace MultipleShooting

namespace Text

/-- The pieces of a text changed, `piece` holding in reverse what has been read of the present
one. -/
def mapPiecesFrom (isSeparator : Char → Bool) (change : List Char → List Char)
    (piece : List Char) : List Char → List Char
  | [] => change piece.reverse
  | char :: rest =>
    if isSeparator char then
      change piece.reverse ++ char :: mapPiecesFrom isSeparator change [] rest
    else mapPiecesFrom isSeparator change (char :: piece) rest

/-- The pieces of a text between separators changed. -/
def mapPieces (separators : String) (change : List Char → String) (text : String) : String :=
  String.ofList <|
    mapPiecesFrom (fun char => separators.toList.contains char)
      (fun piece => (change piece).toList) [] text.toList

end Text

end MultipleShooting
