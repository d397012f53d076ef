import OrderDesk.Text.Ranges

/-!
# `OrderDesk.Text.Columns` — how much room a text takes on a terminal

Most characters take one column; characters of the East Asian scripts and pictures take two, marks
that combine with the character before them none. Sequences that only switch colours take no room.

## Contents
- `Columns.ofChar`, `Columns.width`: the columns of a character and of a text.
- `Columns.padTo`: a text with spaces behind it.
-/

namespace OrderDesk.Columns

/-- Characters of two columns, from first to last. -/
def wide : CharRanges :=
  [(4352, 4447), (8986, 8987), (9001, 9002), (9193, 9196), (9200, 9200), (9203, 9203),
   (9725, 9726), (9748, 9749), (9800, 9811), (9855, 9855), (9875, 9875), (9889, 9889),
   (9898, 9899), (9917, 9918), (9924, 9925), (9934, 9934), (9940, 9940), (9962, 9962),
   (9970, 9971), (9973, 9973), (9978, 9978), (9981, 9981), (9989, 9989), (9994, 9995),
   (10024, 10024), (10060, 10060), (10062, 10062), (10067, 10069), (10071, 10071), (10133, 10135),
   (10160, 10160), (10175, 10175), (11035, 11036), (11088, 11088), (11093, 11093), (11904, 12350),
   (12353, 12871), (12880, 19903), (19968, 42182), (43360, 43388), (44032, 55203), (63744, 64217),
   (65040, 65049), (65072, 65131), (65281, 65376), (65504, 65510), (94176, 111355),
   (126980, 126980), (127183, 127183), (127374, 127374), (127377, 127386), (127488, 127776),
   (127789, 127797), (127799, 127868), (127870, 127891), (127904, 127946), (127951, 127955),
   (127968, 127984), (127988, 127988), (127992, 128062), (128064, 128064), (128066, 128252),
   (128255, 128317), (128331, 128334), (128336, 128359), (128378, 128378), (128405, 128406),
   (128420, 128420), (128507, 128591), (128640, 128709), (128716, 128716), (128720, 128722),
   (128725, 128735), (128747, 128748), (128756, 128764), (128992, 129008), (129292, 129338),
   (129340, 129349), (129351, 129535), (129648, 129782), (131072, 201546)]

/-- Marks of the more common scripts that take no column, from first to last. -/
def zero : CharRanges :=
  [(768, 879), (1155, 1161), (1425, 1469), (1471, 1471), (1473, 1474), (1476, 1477), (1479, 1479),
   (1552, 1562), (1611, 1631), (1648, 1648), (6832, 6911), (7616, 7679), (8203, 8207),
   (8234, 8238), (8288, 8292), (8400, 8432), (65024, 65039), (65056, 65071), (65279, 65279),
   (917760, 917999)]

/-- The columns of a character. -/
def ofChar (c : Char) : Nat :=
  let code := c.toNat
  if code < 0x300 then 1
  else if zero.contains code then 0
  else if wide.contains code then 2
  else 1

/-- The characters of a text that are seen; a sequence that switches a colour runs from the escape
character to its first letter. -/
def visible (inSequence : Bool) : List Char → List Char
  | [] => []
  | c :: rest =>
    if inSequence then visible (!c.isAlpha) rest
    else if c = '\x1b' then visible true rest
    else c :: visible false rest

/-- The columns of a text. -/
def width (text : String) : Nat := (visible false text.toList).foldl (fun columns c => columns + ofChar c) 0

/-- A text with spaces behind it, up to a width. -/
def padTo (columns : Nat) (text : String) : String :=
  text ++ String.ofList (List.replicate (columns - width text) ' ')

end OrderDesk.Columns
