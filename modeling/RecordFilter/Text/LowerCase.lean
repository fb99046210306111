import RecordFilter.Text.Cased
import RecordFilter.Text.SmallLetter

namespace RecordFilter

def leadsToCased (cs : List Char) : Bool :=
  (cs.dropWhile isCaseIgnorable).head?.any isCased

-- A sigma at the end of a word has a form of its own.
def smallSigma (before after : List Char) : Char :=
  if leadsToCased before && !leadsToCased after then 'ς' else 'σ'

def lowerCase (cs : List Char) : List Char :=
  go [] cs
where
  -- What was read is kept backwards, nearest character first.
  go (before : List Char) : List Char → List Char
    | []          => []
    | c :: after =>
      let small := if c = 'Σ' then [smallSigma before after] else smallLetter c
      small ++ go (c :: before) after

end RecordFilter
