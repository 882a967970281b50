import LintBundle.Console.Layout

/-!
# Console/Table — tables in a frame

Every column is as wide as its widest cell and the blanks around it, and every row as high as its
highest cell.  A table that is too wide for the console narrows its widest columns of text that can
be broken, level by level, and after that all columns alike.  The title stands in the middle above
the frame.
-/

namespace LintBundle

/-- A column of a table. -/
structure Column where
  heading : List Point
  /-- The least width, with the blanks around a cell; zero for any. -/
  least : Nat
  /-- Whether cells may be broken into lines. -/
  breaks : Bool
  cells : List (List Point)

/-- A table; the columns are equally long. -/
structure Table where
  title : List Point
  columns : List Column

namespace Table

/-- The greatest of numbers, and zero of none. -/
def greatest (ns : List Nat) : Nat := ns.foldl max 0

/-- The total of numbers. -/
def total (ns : List Nat) : Nat := ns.foldl (· + ·) 0

/-! ## The widths of columns -/

/-- A character that ends a line where the width of a cell is measured. -/
def endsLine (p : Point) : Bool :=
  [0x0a, 0x0b, 0x0c, 0x0d, 0x1c, 0x1d, 0x1e, 0x85, 0x2028, 0x2029].contains p.toNat

/-- The width that a cell asks for. -/
def cellWidth (content : List Point) : Nat :=
  greatest ((Text.split (.char '\n')
    (content.map fun p => if endsLine p then .char '\n' else p)).map Text.width)

/-- The width of a column, if it may take no more than a limit. -/
def columnWidth (limit : Nat) (column : Column) : Nat :=
  let widest := greatest ((column.heading :: column.cells).map cellWidth)
  if limit = 0 then 0 else max column.least (if limit < 3 then limit else min limit (widest + 2))

/-- A quotient rounded to the nearest number, a half to the even one. -/
def roundedQuotient (n d : Nat) : Nat :=
  let q := n / d
  if 2 * (n % d) < d || (2 * (n % d) = d && q % 2 = 0) then q else q + 1

/-- Takes an excess from widths in equal shares.  Each width comes with the most it gives, and
`givers` is how many give anything. -/
def share (excess givers : Nat) : List (Nat × Nat) → List Nat
  | [] => []
  | (width, most) :: rest =>
    if most = 0 then width :: share excess givers rest
    else
      let given := min most (roundedQuotient excess givers)
      (width - given) :: share (excess - given) (givers - 1) rest

/-- Takes an excess from widths in equal shares. -/
def reduced (excess : Nat) (widths : List (Nat × Nat)) : List Nat :=
  share excess (widths.countP fun (_, most) => most ≠ 0) widths

/-- Narrows the widest columns that can be broken to the next width below, until the total is within
a limit or nothing is left of them. -/
def collapsed (limit : Nat) (breaks : List Bool) : Nat → List Nat → List Nat
  | 0, widths => widths
  | fuel + 1, widths =>
    let breakable := ((widths.zip breaks).filter fun (_, breaks) => breaks).map Prod.fst
    let widest := greatest breakable
    let second := greatest (breakable.filter (· ≠ widest))
    let excess := total widths - limit
    if excess = 0 || widest = 0 then widths
    else
      collapsed limit breaks fuel <| reduced excess <|
        (widths.zip breaks).map fun (width, breaks) =>
          (width, if breaks && width = widest then min excess (widest - second) else 0)

/-- The widths of the columns, if all together may take no more than a limit. -/
def widths (t : Table) (limit : Nat) : List Nat :=
  let widths := t.columns.map (columnWidth limit)
  if total widths ≤ limit then widths
  else
    let widths := collapsed limit (t.columns.map Column.breaks) (total widths) widths
    let widths := reduced (total widths - limit) (widths.zip widths)
    List.zipWith columnWidth widths t.columns

/-! ## Lines -/

/-- A line of the frame, with what stands at its ends and between columns. -/
def rule (left line middle right : Point) (widths : List Nat) : List Point :=
  left :: [middle].intercalate (widths.map fun width => List.replicate width line) ++ [right]

/-- The lines of a cell between blanks; a column too narrow for that shows nothing of it. -/
def cellLines (breaks : Bool) (width : Nat) (content : List Point) : List (List Point) :=
  if width < 3 then []
  else
    let breaking := if breaks then .betweenWords else .never
    (Layout.lines breaking (width - 2) content).map fun line =>
      (.char ' ') :: Layout.padded (width - 2) (Layout.shortened (width - 2) line) ++ [.char ' ']

/-- The lines of a row of cells, each with the width of its column and whether it may be broken.
Cells with fewer lines than the row stand at its bottom or its top. -/
def rowLines (bar : Point) (atBottom : Bool) (row : List (Nat × Bool × List Point)) :
    List (List Point) :=
  let cells := row.map fun (width, breaks, content) => (width, cellLines breaks width content)
  let height := max 1 (greatest (cells.map fun (_, lines) => lines.length))
  (List.range height).map fun i =>
    let shown := cells.map fun (width, lines) =>
      let missing := if atBottom then height - lines.length else 0
      if i < missing then List.replicate width (.char ' ')
      else lines.getD (i - missing) (List.replicate width (.char ' '))
    bar :: [bar].intercalate shown ++ [bar]

/-- **The lines of a table** on a console of a width. -/
def lines (t : Table) (width : Nat) : List (List Point) :=
  let widths := t.widths (width - (t.columns.length + 1))
  let whole := total widths + t.columns.length + 1
  let row (content : Column → List Point) : List (Nat × Bool × List Point) :=
    List.zipWith (fun width column => (width, column.breaks, content column)) widths t.columns
  let count := greatest (t.columns.map fun column => column.cells.length)
  let all := (Layout.lines .insideWords whole t.title).map (Layout.centered whole)
    ++ rule '┏' '━' '┳' '┓' widths :: rowLines '┃' true (row Column.heading)
    ++ rule '┡' '━' '╇' '┩' widths ::
      (List.range count).flatMap (fun i => rowLines '│' false (row fun c => c.cells.getD i []))
    ++ [rule '└' '─' '┴' '┘' widths]
  all.map (Layout.cut width)

end Table

end LintBundle
