import LineTally.Text.Basic

namespace LineTally.Text

/-!
# Lines and line ends

A line feed ends a line; no other character does.  A text whose last line is
not ended counts that line all the same.  Text that comes from a file has its
other line ends, a carriage return with or without a line feed, turned into
line feeds first.
-/

/-- The lines of a text, without the line feeds that end them. -/
def lines
    (text : Text) :
    List Text :=
  let pieces := text.splitOn '\n'
  if pieces.getLast? = some [] then pieces.dropLast else pieces

/-- The text with each line end, of whichever kind, written as one line feed. -/
def unifyLineEnds :
    Text → Text
  | [] => []
  | '\r' :: '\n' :: rest => '\n' :: unifyLineEnds rest
  | c :: rest => (if c = '\r' then '\n' else c) :: unifyLineEnds rest

end LineTally.Text
