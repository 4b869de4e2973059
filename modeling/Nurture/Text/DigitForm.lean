import Nurture.Text.DecimalDigit
import Nurture.Text.Ranges

/-!
  Digit forms

  Besides the decimal digits, Unicode has characters whose value is a digit but
  which do not form numbers: superscripts, subscripts, circled digits. Both
  kinds count as digits of a phone number.
-/

namespace Nurture.Text

/-- Code points of numeric type Digit that are not decimal digits. -/
def digitFormRanges : Ranges :=
  [(0xb2, 0xb3), (0xb9, 0xb9), (0x1369, 0x1371), (0x19da, 0x19da), (0x2070, 0x2070),
    (0x2074, 0x2079), (0x2080, 0x2089), (0x2460, 0x2468), (0x2474, 0x247c), (0x2488, 0x2490),
    (0x24ea, 0x24ea), (0x24f5, 0x24fd), (0x24ff, 0x24ff), (0x2776, 0x277e), (0x2780, 0x2788),
    (0x278a, 0x2792), (0x10a40, 0x10a43), (0x10e60, 0x10e68), (0x11052, 0x1105a),
    (0x1f100, 0x1f10a)]

/-- Whether the character is a decimal digit or another form of a digit. -/
def isDigitForm (c : Char) : Bool :=
  isDecimalDigit c || digitFormRanges.covers c.toNat

end Nurture.Text
