/-!
# Styled text

A style is switched on by an escape sequence in front of a text and off by one behind it. Where the
text itself switches all styles off, the style is switched on again.
-/

namespace GrowthScan.Text

/-- A style by the codes that switch it on. -/
structure Style where
  codes : List (List Char)

namespace Style

def bold : Style := ⟨[['1']]⟩
def dimmed : Style := ⟨[['2']]⟩
def italic : Style := ⟨[['3']]⟩
def green : Style := ⟨[['3', '2']]⟩
def yellow : Style := ⟨[['3', '3']]⟩
def magenta : Style := ⟨[['3', '5']]⟩
def boldRed : Style := ⟨[['1'], ['3', '1']]⟩

/-- Switches the style on. -/
def opening (st : Style) : List Char := ['\x1b', '['] ++ [';'].intercalate st.codes ++ ['m']

/-- Switches all styles off. -/
def reset : List Char := ['\x1b', '[', '0', 'm']

/-- The text with the style switched on again where the text switches it off. -/
def resumed (st : Style) : List Char → List Char
  | '\x1b' :: '[' :: '0' :: 'm' :: s => reset ++ st.opening ++ st.resumed s
  | c :: s => c :: st.resumed s
  | [] => []

end Style

/-- The text in a style, or as it is without `colored`. -/
def paint (colored : Bool) (st : Style) (s : List Char) : List Char :=
  if colored then st.opening ++ st.resumed s ++ Style.reset else s

end GrowthScan.Text
