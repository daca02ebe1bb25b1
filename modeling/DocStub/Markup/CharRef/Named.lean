/-
  The named character references.

  1. **Data** — every name with the one or two characters it stands for, as code points, in one list per
     first letter.  A name is written between `&` and `;`.
  2. **Old names** — the names in `bareNames` may also be written without the final `;`.
  3. **Look-up** — `named? name` is the text of a name, `none` for a name that is not listed.
-/
import DocStub.Text.Basic

namespace DocStub.Markup.CharRef

/-- A name and the code points of the characters it stands for. -/
structure Entry where
  name : String
  first : Nat
  second : Option Nat

/-- An entry of one character. -/
def one (name : String) (first : Nat) : Entry := ⟨name, first, none⟩

/-- An entry of two characters. -/
def two (name : String) (first second : Nat) : Entry := ⟨name, first, some second⟩

/-- The characters of an entry. -/
def Entry.text (e : Entry) : Text :=
  Char.ofNat e.first :: (e.second.map Char.ofNat).toList

/-! ## The names, by first letter -/

def upperA : List Entry :=
  [one "AElig" 198, one "AMP" 38, one "Aacute" 193, one "Abreve" 258, one "Acirc" 194,
   one "Acy" 1040, one "Afr" 120068, one "Agrave" 192, one "Alpha" 913, one "Amacr" 256,
   one "And" 10835, one "Aogon" 260, one "Aopf" 120120, one "ApplyFunction" 8289, one "Aring" 197,
   one "Ascr" 119964, one "Assign" 8788, one "Atilde" 195, one "Auml" 196]

def upperB : List Entry :=
  [one "Backslash" 8726, one "Barv" 10983, one "Barwed" 8966, one "Bcy" 1041, one "Because" 8757,
   one "Bernoullis" 8492, one "Beta" 914, one "Bfr" 120069, one "Bopf" 120121, one "Breve" 728,
   one "Bscr" 8492, one "Bumpeq" 8782]

def upperC : List Entry :=
  [one "CHcy" 1063, one "COPY" 169, one "Cacute" 262, one "Cap" 8914,
   one "CapitalDifferentialD" 8517, one "Cayleys" 8493, one "Ccaron" 268, one "Ccedil" 199,
   one "Ccirc" 264, one "Cconint" 8752, one "Cdot" 266, one "Cedilla" 184, one "CenterDot" 183,
   one "Cfr" 8493, one "Chi" 935, one "CircleDot" 8857, one "CircleMinus" 8854,
   one "CirclePlus" 8853, one "CircleTimes" 8855, one "ClockwiseContourIntegral" 8754,
   one "CloseCurlyDoubleQuote" 8221, one "CloseCurlyQuote" 8217, one "Colon" 8759,
   one "Colone" 10868, one "Congruent" 8801, one "Conint" 8751, one "ContourIntegral" 8750,
   one "Copf" 8450, one "Coproduct" 8720, one "CounterClockwiseContourIntegral" 8755,
   one "Cross" 10799, one "Cscr" 119966, one "Cup" 8915, one "CupCap" 8781]

def upperD : List Entry :=
  [one "DD" 8517, one "DDotrahd" 10513, one "DJcy" 1026, one "DScy" 1029, one "DZcy" 1039,
   one "Dagger" 8225, one "Darr" 8609, one "Dashv" 10980, one "Dcaron" 270, one "Dcy" 1044,
   one "Del" 8711, one "Delta" 916, one "Dfr" 120071, one "DiacriticalAcute" 180,
   one "DiacriticalDot" 729, one "DiacriticalDoubleAcute" 733, one "DiacriticalGrave" 96,
   one "DiacriticalTilde" 732, one "Diamond" 8900, one "DifferentialD" 8518, one "Dopf" 120123,
   one "Dot" 168, one "DotDot" 8412, one "DotEqual" 8784, one "DoubleContourIntegral" 8751,
   one "DoubleDot" 168, one "DoubleDownArrow" 8659, one "DoubleLeftArrow" 8656,
   one "DoubleLeftRightArrow" 8660, one "DoubleLeftTee" 10980, one "DoubleLongLeftArrow" 10232,
   one "DoubleLongLeftRightArrow" 10234, one "DoubleLongRightArrow" 10233,
   one "DoubleRightArrow" 8658, one "DoubleRightTee" 8872, one "DoubleUpArrow" 8657,
   one "DoubleUpDownArrow" 8661, one "DoubleVerticalBar" 8741, one "DownArrow" 8595,
   one "DownArrowBar" 10515, one "DownArrowUpArrow" 8693, one "DownBreve" 785,
   one "DownLeftRightVector" 10576, one "DownLeftTeeVector" 10590, one "DownLeftVector" 8637,
   one "DownLeftVectorBar" 10582, one "DownRightTeeVector" 10591, one "DownRightVector" 8641,
   one "DownRightVectorBar" 10583, one "DownTee" 8868, one "DownTeeArrow" 8615,
   one "Downarrow" 8659, one "Dscr" 119967, one "Dstrok" 272]

def upperE : List Entry :=
  [one "ENG" 330, one "ETH" 208, one "Eacute" 201, one "Ecaron" 282, one "Ecirc" 202,
   one "Ecy" 1069, one "Edot" 278, one "Efr" 120072, one "Egrave" 200, one "Element" 8712,
   one "Emacr" 274, one "EmptySmallSquare" 9723, one "EmptyVerySmallSquare" 9643, one "Eogon" 280,
   one "Eopf" 120124, one "Epsilon" 917, one "Equal" 10869, one "EqualTilde" 8770,
   one "Equilibrium" 8652, one "Escr" 8496, one "Esim" 10867, one "Eta" 919, one "Euml" 203,
   one "Exists" 8707, one "ExponentialE" 8519]

def upperF : List Entry :=
  [one "Fcy" 1060, one "Ffr" 120073, one "FilledSmallSquare" 9724, one "FilledVerySmallSquare" 9642,
   one "Fopf" 120125, one "ForAll" 8704, one "Fouriertrf" 8497, one "Fscr" 8497]

def upperG : List Entry :=
  [one "GJcy" 1027, one "GT" 62, one "Gamma" 915, one "Gammad" 988, one "Gbreve" 286,
   one "Gcedil" 290, one "Gcirc" 284, one "Gcy" 1043, one "Gdot" 288, one "Gfr" 120074,
   one "Gg" 8921, one "Gopf" 120126, one "GreaterEqual" 8805, one "GreaterEqualLess" 8923,
   one "GreaterFullEqual" 8807, one "GreaterGreater" 10914, one "GreaterLess" 8823,
   one "GreaterSlantEqual" 10878, one "GreaterTilde" 8819, one "Gscr" 119970, one "Gt" 8811]

def upperH : List Entry :=
  [one "HARDcy" 1066, one "Hacek" 711, one "Hat" 94, one "Hcirc" 292, one "Hfr" 8460,
   one "HilbertSpace" 8459, one "Hopf" 8461, one "HorizontalLine" 9472, one "Hscr" 8459,
   one "Hstrok" 294, one "HumpDownHump" 8782, one "HumpEqual" 8783]

def upperI : List Entry :=
  [one "IEcy" 1045, one "IJlig" 306, one "IOcy" 1025, one "Iacute" 205, one "Icirc" 206,
   one "Icy" 1048, one "Idot" 304, one "Ifr" 8465, one "Igrave" 204, one "Im" 8465, one "Imacr" 298,
   one "ImaginaryI" 8520, one "Implies" 8658, one "Int" 8748, one "Integral" 8747,
   one "Intersection" 8898, one "InvisibleComma" 8291, one "InvisibleTimes" 8290, one "Iogon" 302,
   one "Iopf" 120128, one "Iota" 921, one "Iscr" 8464, one "Itilde" 296, one "Iukcy" 1030,
   one "Iuml" 207]

def upperJ : List Entry :=
  [one "Jcirc" 308, one "Jcy" 1049, one "Jfr" 120077, one "Jopf" 120129, one "Jscr" 119973,
   one "Jsercy" 1032, one "Jukcy" 1028]

def upperK : List Entry :=
  [one "KHcy" 1061, one "KJcy" 1036, one "Kappa" 922, one "Kcedil" 310, one "Kcy" 1050,
   one "Kfr" 120078, one "Kopf" 120130, one "Kscr" 119974]

def upperL : List Entry :=
  [one "LJcy" 1033, one "LT" 60, one "Lacute" 313, one "Lambda" 923, one "Lang" 10218,
   one "Laplacetrf" 8466, one "Larr" 8606, one "Lcaron" 317, one "Lcedil" 315, one "Lcy" 1051,
   one "LeftAngleBracket" 10216, one "LeftArrow" 8592, one "LeftArrowBar" 8676,
   one "LeftArrowRightArrow" 8646, one "LeftCeiling" 8968, one "LeftDoubleBracket" 10214,
   one "LeftDownTeeVector" 10593, one "LeftDownVector" 8643, one "LeftDownVectorBar" 10585,
   one "LeftFloor" 8970, one "LeftRightArrow" 8596, one "LeftRightVector" 10574, one "LeftTee" 8867,
   one "LeftTeeArrow" 8612, one "LeftTeeVector" 10586, one "LeftTriangle" 8882,
   one "LeftTriangleBar" 10703, one "LeftTriangleEqual" 8884, one "LeftUpDownVector" 10577,
   one "LeftUpTeeVector" 10592, one "LeftUpVector" 8639, one "LeftUpVectorBar" 10584,
   one "LeftVector" 8636, one "LeftVectorBar" 10578, one "Leftarrow" 8656,
   one "Leftrightarrow" 8660, one "LessEqualGreater" 8922, one "LessFullEqual" 8806,
   one "LessGreater" 8822, one "LessLess" 10913, one "LessSlantEqual" 10877, one "LessTilde" 8818,
   one "Lfr" 120079, one "Ll" 8920, one "Lleftarrow" 8666, one "Lmidot" 319,
   one "LongLeftArrow" 10229, one "LongLeftRightArrow" 10231, one "LongRightArrow" 10230,
   one "Longleftarrow" 10232, one "Longleftrightarrow" 10234, one "Longrightarrow" 10233,
   one "Lopf" 120131, one "LowerLeftArrow" 8601, one "LowerRightArrow" 8600, one "Lscr" 8466,
   one "Lsh" 8624, one "Lstrok" 321, one "Lt" 8810]

def upperM : List Entry :=
  [one "Map" 10501, one "Mcy" 1052, one "MediumSpace" 8287, one "Mellintrf" 8499, one "Mfr" 120080,
   one "MinusPlus" 8723, one "Mopf" 120132, one "Mscr" 8499, one "Mu" 924]

def upperN : List Entry :=
  [one "NJcy" 1034, one "Nacute" 323, one "Ncaron" 327, one "Ncedil" 325, one "Ncy" 1053,
   one "NegativeMediumSpace" 8203, one "NegativeThickSpace" 8203, one "NegativeThinSpace" 8203,
   one "NegativeVeryThinSpace" 8203, one "NestedGreaterGreater" 8811, one "NestedLessLess" 8810,
   one "NewLine" 10, one "Nfr" 120081, one "NoBreak" 8288, one "NonBreakingSpace" 160,
   one "Nopf" 8469, one "Not" 10988, one "NotCongruent" 8802, one "NotCupCap" 8813,
   one "NotDoubleVerticalBar" 8742, one "NotElement" 8713, one "NotEqual" 8800,
   two "NotEqualTilde" 8770 824, one "NotExists" 8708, one "NotGreater" 8815,
   one "NotGreaterEqual" 8817, two "NotGreaterFullEqual" 8807 824, two "NotGreaterGreater" 8811 824,
   one "NotGreaterLess" 8825, two "NotGreaterSlantEqual" 10878 824, one "NotGreaterTilde" 8821,
   two "NotHumpDownHump" 8782 824, two "NotHumpEqual" 8783 824, one "NotLeftTriangle" 8938,
   two "NotLeftTriangleBar" 10703 824, one "NotLeftTriangleEqual" 8940, one "NotLess" 8814,
   one "NotLessEqual" 8816, one "NotLessGreater" 8824, two "NotLessLess" 8810 824,
   two "NotLessSlantEqual" 10877 824, one "NotLessTilde" 8820,
   two "NotNestedGreaterGreater" 10914 824, two "NotNestedLessLess" 10913 824,
   one "NotPrecedes" 8832, two "NotPrecedesEqual" 10927 824, one "NotPrecedesSlantEqual" 8928,
   one "NotReverseElement" 8716, one "NotRightTriangle" 8939, two "NotRightTriangleBar" 10704 824,
   one "NotRightTriangleEqual" 8941, two "NotSquareSubset" 8847 824,
   one "NotSquareSubsetEqual" 8930, two "NotSquareSuperset" 8848 824,
   one "NotSquareSupersetEqual" 8931, two "NotSubset" 8834 8402, one "NotSubsetEqual" 8840,
   one "NotSucceeds" 8833, two "NotSucceedsEqual" 10928 824, one "NotSucceedsSlantEqual" 8929,
   two "NotSucceedsTilde" 8831 824, two "NotSuperset" 8835 8402, one "NotSupersetEqual" 8841,
   one "NotTilde" 8769, one "NotTildeEqual" 8772, one "NotTildeFullEqual" 8775,
   one "NotTildeTilde" 8777, one "NotVerticalBar" 8740, one "Nscr" 119977, one "Ntilde" 209,
   one "Nu" 925]

def upperO : List Entry :=
  [one "OElig" 338, one "Oacute" 211, one "Ocirc" 212, one "Ocy" 1054, one "Odblac" 336,
   one "Ofr" 120082, one "Ograve" 210, one "Omacr" 332, one "Omega" 937, one "Omicron" 927,
   one "Oopf" 120134, one "OpenCurlyDoubleQuote" 8220, one "OpenCurlyQuote" 8216, one "Or" 10836,
   one "Oscr" 119978, one "Oslash" 216, one "Otilde" 213, one "Otimes" 10807, one "Ouml" 214,
   one "OverBar" 8254, one "OverBrace" 9182, one "OverBracket" 9140, one "OverParenthesis" 9180]

def upperP : List Entry :=
  [one "PartialD" 8706, one "Pcy" 1055, one "Pfr" 120083, one "Phi" 934, one "Pi" 928,
   one "PlusMinus" 177, one "Poincareplane" 8460, one "Popf" 8473, one "Pr" 10939,
   one "Precedes" 8826, one "PrecedesEqual" 10927, one "PrecedesSlantEqual" 8828,
   one "PrecedesTilde" 8830, one "Prime" 8243, one "Product" 8719, one "Proportion" 8759,
   one "Proportional" 8733, one "Pscr" 119979, one "Psi" 936]

def upperQ : List Entry :=
  [one "QUOT" 34, one "Qfr" 120084, one "Qopf" 8474, one "Qscr" 119980]

def upperR : List Entry :=
  [one "RBarr" 10512, one "REG" 174, one "Racute" 340, one "Rang" 10219, one "Rarr" 8608,
   one "Rarrtl" 10518, one "Rcaron" 344, one "Rcedil" 342, one "Rcy" 1056, one "Re" 8476,
   one "ReverseElement" 8715, one "ReverseEquilibrium" 8651, one "ReverseUpEquilibrium" 10607,
   one "Rfr" 8476, one "Rho" 929, one "RightAngleBracket" 10217, one "RightArrow" 8594,
   one "RightArrowBar" 8677, one "RightArrowLeftArrow" 8644, one "RightCeiling" 8969,
   one "RightDoubleBracket" 10215, one "RightDownTeeVector" 10589, one "RightDownVector" 8642,
   one "RightDownVectorBar" 10581, one "RightFloor" 8971, one "RightTee" 8866,
   one "RightTeeArrow" 8614, one "RightTeeVector" 10587, one "RightTriangle" 8883,
   one "RightTriangleBar" 10704, one "RightTriangleEqual" 8885, one "RightUpDownVector" 10575,
   one "RightUpTeeVector" 10588, one "RightUpVector" 8638, one "RightUpVectorBar" 10580,
   one "RightVector" 8640, one "RightVectorBar" 10579, one "Rightarrow" 8658, one "Ropf" 8477,
   one "RoundImplies" 10608, one "Rrightarrow" 8667, one "Rscr" 8475, one "Rsh" 8625,
   one "RuleDelayed" 10740]

def upperS : List Entry :=
  [one "SHCHcy" 1065, one "SHcy" 1064, one "SOFTcy" 1068, one "Sacute" 346, one "Sc" 10940,
   one "Scaron" 352, one "Scedil" 350, one "Scirc" 348, one "Scy" 1057, one "Sfr" 120086,
   one "ShortDownArrow" 8595, one "ShortLeftArrow" 8592, one "ShortRightArrow" 8594,
   one "ShortUpArrow" 8593, one "Sigma" 931, one "SmallCircle" 8728, one "Sopf" 120138,
   one "Sqrt" 8730, one "Square" 9633, one "SquareIntersection" 8851, one "SquareSubset" 8847,
   one "SquareSubsetEqual" 8849, one "SquareSuperset" 8848, one "SquareSupersetEqual" 8850,
   one "SquareUnion" 8852, one "Sscr" 119982, one "Star" 8902, one "Sub" 8912, one "Subset" 8912,
   one "SubsetEqual" 8838, one "Succeeds" 8827, one "SucceedsEqual" 10928,
   one "SucceedsSlantEqual" 8829, one "SucceedsTilde" 8831, one "SuchThat" 8715, one "Sum" 8721,
   one "Sup" 8913, one "Superset" 8835, one "SupersetEqual" 8839, one "Supset" 8913]

def upperT : List Entry :=
  [one "THORN" 222, one "TRADE" 8482, one "TSHcy" 1035, one "TScy" 1062, one "Tab" 9, one "Tau" 932,
   one "Tcaron" 356, one "Tcedil" 354, one "Tcy" 1058, one "Tfr" 120087, one "Therefore" 8756,
   one "Theta" 920, two "ThickSpace" 8287 8202, one "ThinSpace" 8201, one "Tilde" 8764,
   one "TildeEqual" 8771, one "TildeFullEqual" 8773, one "TildeTilde" 8776, one "Topf" 120139,
   one "TripleDot" 8411, one "Tscr" 119983, one "Tstrok" 358]

def upperU : List Entry :=
  [one "Uacute" 218, one "Uarr" 8607, one "Uarrocir" 10569, one "Ubrcy" 1038, one "Ubreve" 364,
   one "Ucirc" 219, one "Ucy" 1059, one "Udblac" 368, one "Ufr" 120088, one "Ugrave" 217,
   one "Umacr" 362, one "UnderBar" 95, one "UnderBrace" 9183, one "UnderBracket" 9141,
   one "UnderParenthesis" 9181, one "Union" 8899, one "UnionPlus" 8846, one "Uogon" 370,
   one "Uopf" 120140, one "UpArrow" 8593, one "UpArrowBar" 10514, one "UpArrowDownArrow" 8645,
   one "UpDownArrow" 8597, one "UpEquilibrium" 10606, one "UpTee" 8869, one "UpTeeArrow" 8613,
   one "Uparrow" 8657, one "Updownarrow" 8661, one "UpperLeftArrow" 8598,
   one "UpperRightArrow" 8599, one "Upsi" 978, one "Upsilon" 933, one "Uring" 366,
   one "Uscr" 119984, one "Utilde" 360, one "Uuml" 220]

def upperV : List Entry :=
  [one "VDash" 8875, one "Vbar" 10987, one "Vcy" 1042, one "Vdash" 8873, one "Vdashl" 10982,
   one "Vee" 8897, one "Verbar" 8214, one "Vert" 8214, one "VerticalBar" 8739,
   one "VerticalLine" 124, one "VerticalSeparator" 10072, one "VerticalTilde" 8768,
   one "VeryThinSpace" 8202, one "Vfr" 120089, one "Vopf" 120141, one "Vscr" 119985,
   one "Vvdash" 8874]

def upperW : List Entry :=
  [one "Wcirc" 372, one "Wedge" 8896, one "Wfr" 120090, one "Wopf" 120142, one "Wscr" 119986]

def upperX : List Entry :=
  [one "Xfr" 120091, one "Xi" 926, one "Xopf" 120143, one "Xscr" 119987]

def upperY : List Entry :=
  [one "YAcy" 1071, one "YIcy" 1031, one "YUcy" 1070, one "Yacute" 221, one "Ycirc" 374,
   one "Ycy" 1067, one "Yfr" 120092, one "Yopf" 120144, one "Yscr" 119988, one "Yuml" 376]

def upperZ : List Entry :=
  [one "ZHcy" 1046, one "Zacute" 377, one "Zcaron" 381, one "Zcy" 1047, one "Zdot" 379,
   one "ZeroWidthSpace" 8203, one "Zeta" 918, one "Zfr" 8488, one "Zopf" 8484, one "Zscr" 119989]

def lowerA : List Entry :=
  [one "aacute" 225, one "abreve" 259, one "ac" 8766, two "acE" 8766 819, one "acd" 8767,
   one "acirc" 226, one "acute" 180, one "acy" 1072, one "aelig" 230, one "af" 8289,
   one "afr" 120094, one "agrave" 224, one "alefsym" 8501, one "aleph" 8501, one "alpha" 945,
   one "amacr" 257, one "amalg" 10815, one "amp" 38, one "and" 8743, one "andand" 10837,
   one "andd" 10844, one "andslope" 10840, one "andv" 10842, one "ang" 8736, one "ange" 10660,
   one "angle" 8736, one "angmsd" 8737, one "angmsdaa" 10664, one "angmsdab" 10665,
   one "angmsdac" 10666, one "angmsdad" 10667, one "angmsdae" 10668, one "angmsdaf" 10669,
   one "angmsdag" 10670, one "angmsdah" 10671, one "angrt" 8735, one "angrtvb" 8894,
   one "angrtvbd" 10653, one "angsph" 8738, one "angst" 197, one "angzarr" 9084, one "aogon" 261,
   one "aopf" 120146, one "ap" 8776, one "apE" 10864, one "apacir" 10863, one "ape" 8778,
   one "apid" 8779, one "apos" 39, one "approx" 8776, one "approxeq" 8778, one "aring" 229,
   one "ascr" 119990, one "ast" 42, one "asymp" 8776, one "asympeq" 8781, one "atilde" 227,
   one "auml" 228, one "awconint" 8755, one "awint" 10769]

def lowerB : List Entry :=
  [one "bNot" 10989, one "backcong" 8780, one "backepsilon" 1014, one "backprime" 8245,
   one "backsim" 8765, one "backsimeq" 8909, one "barvee" 8893, one "barwed" 8965,
   one "barwedge" 8965, one "bbrk" 9141, one "bbrktbrk" 9142, one "bcong" 8780, one "bcy" 1073,
   one "bdquo" 8222, one "becaus" 8757, one "because" 8757, one "bemptyv" 10672, one "bepsi" 1014,
   one "bernou" 8492, one "beta" 946, one "beth" 8502, one "between" 8812, one "bfr" 120095,
   one "bigcap" 8898, one "bigcirc" 9711, one "bigcup" 8899, one "bigodot" 10752,
   one "bigoplus" 10753, one "bigotimes" 10754, one "bigsqcup" 10758, one "bigstar" 9733,
   one "bigtriangledown" 9661, one "bigtriangleup" 9651, one "biguplus" 10756, one "bigvee" 8897,
   one "bigwedge" 8896, one "bkarow" 10509, one "blacklozenge" 10731, one "blacksquare" 9642,
   one "blacktriangle" 9652, one "blacktriangledown" 9662, one "blacktriangleleft" 9666,
   one "blacktriangleright" 9656, one "blank" 9251, one "blk12" 9618, one "blk14" 9617,
   one "blk34" 9619, one "block" 9608, two "bne" 61 8421, two "bnequiv" 8801 8421, one "bnot" 8976,
   one "bopf" 120147, one "bot" 8869, one "bottom" 8869, one "bowtie" 8904, one "boxDL" 9559,
   one "boxDR" 9556, one "boxDl" 9558, one "boxDr" 9555, one "boxH" 9552, one "boxHD" 9574,
   one "boxHU" 9577, one "boxHd" 9572, one "boxHu" 9575, one "boxUL" 9565, one "boxUR" 9562,
   one "boxUl" 9564, one "boxUr" 9561, one "boxV" 9553, one "boxVH" 9580, one "boxVL" 9571,
   one "boxVR" 9568, one "boxVh" 9579, one "boxVl" 9570, one "boxVr" 9567, one "boxbox" 10697,
   one "boxdL" 9557, one "boxdR" 9554, one "boxdl" 9488, one "boxdr" 9484, one "boxh" 9472,
   one "boxhD" 9573, one "boxhU" 9576, one "boxhd" 9516, one "boxhu" 9524, one "boxminus" 8863,
   one "boxplus" 8862, one "boxtimes" 8864, one "boxuL" 9563, one "boxuR" 9560, one "boxul" 9496,
   one "boxur" 9492, one "boxv" 9474, one "boxvH" 9578, one "boxvL" 9569, one "boxvR" 9566,
   one "boxvh" 9532, one "boxvl" 9508, one "boxvr" 9500, one "bprime" 8245, one "breve" 728,
   one "brvbar" 166, one "bscr" 119991, one "bsemi" 8271, one "bsim" 8765, one "bsime" 8909,
   one "bsol" 92, one "bsolb" 10693, one "bsolhsub" 10184, one "bull" 8226, one "bullet" 8226,
   one "bump" 8782, one "bumpE" 10926, one "bumpe" 8783, one "bumpeq" 8783]

def lowerC : List Entry :=
  [one "cacute" 263, one "cap" 8745, one "capand" 10820, one "capbrcup" 10825, one "capcap" 10827,
   one "capcup" 10823, one "capdot" 10816, two "caps" 8745 65024, one "caret" 8257, one "caron" 711,
   one "ccaps" 10829, one "ccaron" 269, one "ccedil" 231, one "ccirc" 265, one "ccups" 10828,
   one "ccupssm" 10832, one "cdot" 267, one "cedil" 184, one "cemptyv" 10674, one "cent" 162,
   one "centerdot" 183, one "cfr" 120096, one "chcy" 1095, one "check" 10003, one "checkmark" 10003,
   one "chi" 967, one "cir" 9675, one "cirE" 10691, one "circ" 710, one "circeq" 8791,
   one "circlearrowleft" 8634, one "circlearrowright" 8635, one "circledR" 174, one "circledS" 9416,
   one "circledast" 8859, one "circledcirc" 8858, one "circleddash" 8861, one "cire" 8791,
   one "cirfnint" 10768, one "cirmid" 10991, one "cirscir" 10690, one "clubs" 9827,
   one "clubsuit" 9827, one "colon" 58, one "colone" 8788, one "coloneq" 8788, one "comma" 44,
   one "commat" 64, one "comp" 8705, one "compfn" 8728, one "complement" 8705, one "complexes" 8450,
   one "cong" 8773, one "congdot" 10861, one "conint" 8750, one "copf" 120148, one "coprod" 8720,
   one "copy" 169, one "copysr" 8471, one "crarr" 8629, one "cross" 10007, one "cscr" 119992,
   one "csub" 10959, one "csube" 10961, one "csup" 10960, one "csupe" 10962, one "ctdot" 8943,
   one "cudarrl" 10552, one "cudarrr" 10549, one "cuepr" 8926, one "cuesc" 8927, one "cularr" 8630,
   one "cularrp" 10557, one "cup" 8746, one "cupbrcap" 10824, one "cupcap" 10822,
   one "cupcup" 10826, one "cupdot" 8845, one "cupor" 10821, two "cups" 8746 65024,
   one "curarr" 8631, one "curarrm" 10556, one "curlyeqprec" 8926, one "curlyeqsucc" 8927,
   one "curlyvee" 8910, one "curlywedge" 8911, one "curren" 164, one "curvearrowleft" 8630,
   one "curvearrowright" 8631, one "cuvee" 8910, one "cuwed" 8911, one "cwconint" 8754,
   one "cwint" 8753, one "cylcty" 9005]

def lowerD : List Entry :=
  [one "dArr" 8659, one "dHar" 10597, one "dagger" 8224, one "daleth" 8504, one "darr" 8595,
   one "dash" 8208, one "dashv" 8867, one "dbkarow" 10511, one "dblac" 733, one "dcaron" 271,
   one "dcy" 1076, one "dd" 8518, one "ddagger" 8225, one "ddarr" 8650, one "ddotseq" 10871,
   one "deg" 176, one "delta" 948, one "demptyv" 10673, one "dfisht" 10623, one "dfr" 120097,
   one "dharl" 8643, one "dharr" 8642, one "diam" 8900, one "diamond" 8900, one "diamondsuit" 9830,
   one "diams" 9830, one "die" 168, one "digamma" 989, one "disin" 8946, one "div" 247,
   one "divide" 247, one "divideontimes" 8903, one "divonx" 8903, one "djcy" 1106,
   one "dlcorn" 8990, one "dlcrop" 8973, one "dollar" 36, one "dopf" 120149, one "dot" 729,
   one "doteq" 8784, one "doteqdot" 8785, one "dotminus" 8760, one "dotplus" 8724,
   one "dotsquare" 8865, one "doublebarwedge" 8966, one "downarrow" 8595, one "downdownarrows" 8650,
   one "downharpoonleft" 8643, one "downharpoonright" 8642, one "drbkarow" 10512, one "drcorn" 8991,
   one "drcrop" 8972, one "dscr" 119993, one "dscy" 1109, one "dsol" 10742, one "dstrok" 273,
   one "dtdot" 8945, one "dtri" 9663, one "dtrif" 9662, one "duarr" 8693, one "duhar" 10607,
   one "dwangle" 10662, one "dzcy" 1119, one "dzigrarr" 10239]

def lowerE : List Entry :=
  [one "eDDot" 10871, one "eDot" 8785, one "eacute" 233, one "easter" 10862, one "ecaron" 283,
   one "ecir" 8790, one "ecirc" 234, one "ecolon" 8789, one "ecy" 1101, one "edot" 279,
   one "ee" 8519, one "efDot" 8786, one "efr" 120098, one "eg" 10906, one "egrave" 232,
   one "egs" 10902, one "egsdot" 10904, one "el" 10905, one "elinters" 9191, one "ell" 8467,
   one "els" 10901, one "elsdot" 10903, one "emacr" 275, one "empty" 8709, one "emptyset" 8709,
   one "emptyv" 8709, one "emsp" 8195, one "emsp13" 8196, one "emsp14" 8197, one "eng" 331,
   one "ensp" 8194, one "eogon" 281, one "eopf" 120150, one "epar" 8917, one "eparsl" 10723,
   one "eplus" 10865, one "epsi" 949, one "epsilon" 949, one "epsiv" 1013, one "eqcirc" 8790,
   one "eqcolon" 8789, one "eqsim" 8770, one "eqslantgtr" 10902, one "eqslantless" 10901,
   one "equals" 61, one "equest" 8799, one "equiv" 8801, one "equivDD" 10872, one "eqvparsl" 10725,
   one "erDot" 8787, one "erarr" 10609, one "escr" 8495, one "esdot" 8784, one "esim" 8770,
   one "eta" 951, one "eth" 240, one "euml" 235, one "euro" 8364, one "excl" 33, one "exist" 8707,
   one "expectation" 8496, one "exponentiale" 8519]

def lowerF : List Entry :=
  [one "fallingdotseq" 8786, one "fcy" 1092, one "female" 9792, one "ffilig" 64259,
   one "fflig" 64256, one "ffllig" 64260, one "ffr" 120099, one "filig" 64257, two "fjlig" 102 106,
   one "flat" 9837, one "fllig" 64258, one "fltns" 9649, one "fnof" 402, one "fopf" 120151,
   one "forall" 8704, one "fork" 8916, one "forkv" 10969, one "fpartint" 10765, one "frac12" 189,
   one "frac13" 8531, one "frac14" 188, one "frac15" 8533, one "frac16" 8537, one "frac18" 8539,
   one "frac23" 8532, one "frac25" 8534, one "frac34" 190, one "frac35" 8535, one "frac38" 8540,
   one "frac45" 8536, one "frac56" 8538, one "frac58" 8541, one "frac78" 8542, one "frasl" 8260,
   one "frown" 8994, one "fscr" 119995]

def lowerG : List Entry :=
  [one "gE" 8807, one "gEl" 10892, one "gacute" 501, one "gamma" 947, one "gammad" 989,
   one "gap" 10886, one "gbreve" 287, one "gcirc" 285, one "gcy" 1075, one "gdot" 289,
   one "ge" 8805, one "gel" 8923, one "geq" 8805, one "geqq" 8807, one "geqslant" 10878,
   one "ges" 10878, one "gescc" 10921, one "gesdot" 10880, one "gesdoto" 10882,
   one "gesdotol" 10884, two "gesl" 8923 65024, one "gesles" 10900, one "gfr" 120100, one "gg" 8811,
   one "ggg" 8921, one "gimel" 8503, one "gjcy" 1107, one "gl" 8823, one "glE" 10898,
   one "gla" 10917, one "glj" 10916, one "gnE" 8809, one "gnap" 10890, one "gnapprox" 10890,
   one "gne" 10888, one "gneq" 10888, one "gneqq" 8809, one "gnsim" 8935, one "gopf" 120152,
   one "grave" 96, one "gscr" 8458, one "gsim" 8819, one "gsime" 10894, one "gsiml" 10896,
   one "gt" 62, one "gtcc" 10919, one "gtcir" 10874, one "gtdot" 8919, one "gtlPar" 10645,
   one "gtquest" 10876, one "gtrapprox" 10886, one "gtrarr" 10616, one "gtrdot" 8919,
   one "gtreqless" 8923, one "gtreqqless" 10892, one "gtrless" 8823, one "gtrsim" 8819,
   two "gvertneqq" 8809 65024, two "gvnE" 8809 65024]

def lowerH : List Entry :=
  [one "hArr" 8660, one "hairsp" 8202, one "half" 189, one "hamilt" 8459, one "hardcy" 1098,
   one "harr" 8596, one "harrcir" 10568, one "harrw" 8621, one "hbar" 8463, one "hcirc" 293,
   one "hearts" 9829, one "heartsuit" 9829, one "hellip" 8230, one "hercon" 8889, one "hfr" 120101,
   one "hksearow" 10533, one "hkswarow" 10534, one "hoarr" 8703, one "homtht" 8763,
   one "hookleftarrow" 8617, one "hookrightarrow" 8618, one "hopf" 120153, one "horbar" 8213,
   one "hscr" 119997, one "hslash" 8463, one "hstrok" 295, one "hybull" 8259, one "hyphen" 8208]

def lowerI : List Entry :=
  [one "iacute" 237, one "ic" 8291, one "icirc" 238, one "icy" 1080, one "iecy" 1077,
   one "iexcl" 161, one "iff" 8660, one "ifr" 120102, one "igrave" 236, one "ii" 8520,
   one "iiiint" 10764, one "iiint" 8749, one "iinfin" 10716, one "iiota" 8489, one "ijlig" 307,
   one "imacr" 299, one "image" 8465, one "imagline" 8464, one "imagpart" 8465, one "imath" 305,
   one "imof" 8887, one "imped" 437, one "in" 8712, one "incare" 8453, one "infin" 8734,
   one "infintie" 10717, one "inodot" 305, one "int" 8747, one "intcal" 8890, one "integers" 8484,
   one "intercal" 8890, one "intlarhk" 10775, one "intprod" 10812, one "iocy" 1105, one "iogon" 303,
   one "iopf" 120154, one "iota" 953, one "iprod" 10812, one "iquest" 191, one "iscr" 119998,
   one "isin" 8712, one "isinE" 8953, one "isindot" 8949, one "isins" 8948, one "isinsv" 8947,
   one "isinv" 8712, one "it" 8290, one "itilde" 297, one "iukcy" 1110, one "iuml" 239]

def lowerJ : List Entry :=
  [one "jcirc" 309, one "jcy" 1081, one "jfr" 120103, one "jmath" 567, one "jopf" 120155,
   one "jscr" 119999, one "jsercy" 1112, one "jukcy" 1108]

def lowerK : List Entry :=
  [one "kappa" 954, one "kappav" 1008, one "kcedil" 311, one "kcy" 1082, one "kfr" 120104,
   one "kgreen" 312, one "khcy" 1093, one "kjcy" 1116, one "kopf" 120156, one "kscr" 120000]

def lowerL : List Entry :=
  [one "lAarr" 8666, one "lArr" 8656, one "lAtail" 10523, one "lBarr" 10510, one "lE" 8806,
   one "lEg" 10891, one "lHar" 10594, one "lacute" 314, one "laemptyv" 10676, one "lagran" 8466,
   one "lambda" 955, one "lang" 10216, one "langd" 10641, one "langle" 10216, one "lap" 10885,
   one "laquo" 171, one "larr" 8592, one "larrb" 8676, one "larrbfs" 10527, one "larrfs" 10525,
   one "larrhk" 8617, one "larrlp" 8619, one "larrpl" 10553, one "larrsim" 10611, one "larrtl" 8610,
   one "lat" 10923, one "latail" 10521, one "late" 10925, two "lates" 10925 65024,
   one "lbarr" 10508, one "lbbrk" 10098, one "lbrace" 123, one "lbrack" 91, one "lbrke" 10635,
   one "lbrksld" 10639, one "lbrkslu" 10637, one "lcaron" 318, one "lcedil" 316, one "lceil" 8968,
   one "lcub" 123, one "lcy" 1083, one "ldca" 10550, one "ldquo" 8220, one "ldquor" 8222,
   one "ldrdhar" 10599, one "ldrushar" 10571, one "ldsh" 8626, one "le" 8804, one "leftarrow" 8592,
   one "leftarrowtail" 8610, one "leftharpoondown" 8637, one "leftharpoonup" 8636,
   one "leftleftarrows" 8647, one "leftrightarrow" 8596, one "leftrightarrows" 8646,
   one "leftrightharpoons" 8651, one "leftrightsquigarrow" 8621, one "leftthreetimes" 8907,
   one "leg" 8922, one "leq" 8804, one "leqq" 8806, one "leqslant" 10877, one "les" 10877,
   one "lescc" 10920, one "lesdot" 10879, one "lesdoto" 10881, one "lesdotor" 10883,
   two "lesg" 8922 65024, one "lesges" 10899, one "lessapprox" 10885, one "lessdot" 8918,
   one "lesseqgtr" 8922, one "lesseqqgtr" 10891, one "lessgtr" 8822, one "lesssim" 8818,
   one "lfisht" 10620, one "lfloor" 8970, one "lfr" 120105, one "lg" 8822, one "lgE" 10897,
   one "lhard" 8637, one "lharu" 8636, one "lharul" 10602, one "lhblk" 9604, one "ljcy" 1113,
   one "ll" 8810, one "llarr" 8647, one "llcorner" 8990, one "llhard" 10603, one "lltri" 9722,
   one "lmidot" 320, one "lmoust" 9136, one "lmoustache" 9136, one "lnE" 8808, one "lnap" 10889,
   one "lnapprox" 10889, one "lne" 10887, one "lneq" 10887, one "lneqq" 8808, one "lnsim" 8934,
   one "loang" 10220, one "loarr" 8701, one "lobrk" 10214, one "longleftarrow" 10229,
   one "longleftrightarrow" 10231, one "longmapsto" 10236, one "longrightarrow" 10230,
   one "looparrowleft" 8619, one "looparrowright" 8620, one "lopar" 10629, one "lopf" 120157,
   one "loplus" 10797, one "lotimes" 10804, one "lowast" 8727, one "lowbar" 95, one "loz" 9674,
   one "lozenge" 9674, one "lozf" 10731, one "lpar" 40, one "lparlt" 10643, one "lrarr" 8646,
   one "lrcorner" 8991, one "lrhar" 8651, one "lrhard" 10605, one "lrm" 8206, one "lrtri" 8895,
   one "lsaquo" 8249, one "lscr" 120001, one "lsh" 8624, one "lsim" 8818, one "lsime" 10893,
   one "lsimg" 10895, one "lsqb" 91, one "lsquo" 8216, one "lsquor" 8218, one "lstrok" 322,
   one "lt" 60, one "ltcc" 10918, one "ltcir" 10873, one "ltdot" 8918, one "lthree" 8907,
   one "ltimes" 8905, one "ltlarr" 10614, one "ltquest" 10875, one "ltrPar" 10646, one "ltri" 9667,
   one "ltrie" 8884, one "ltrif" 9666, one "lurdshar" 10570, one "luruhar" 10598,
   two "lvertneqq" 8808 65024, two "lvnE" 8808 65024]

def lowerM : List Entry :=
  [one "mDDot" 8762, one "macr" 175, one "male" 9794, one "malt" 10016, one "maltese" 10016,
   one "map" 8614, one "mapsto" 8614, one "mapstodown" 8615, one "mapstoleft" 8612,
   one "mapstoup" 8613, one "marker" 9646, one "mcomma" 10793, one "mcy" 1084, one "mdash" 8212,
   one "measuredangle" 8737, one "mfr" 120106, one "mho" 8487, one "micro" 181, one "mid" 8739,
   one "midast" 42, one "midcir" 10992, one "middot" 183, one "minus" 8722, one "minusb" 8863,
   one "minusd" 8760, one "minusdu" 10794, one "mlcp" 10971, one "mldr" 8230, one "mnplus" 8723,
   one "models" 8871, one "mopf" 120158, one "mp" 8723, one "mscr" 120002, one "mstpos" 8766,
   one "mu" 956, one "multimap" 8888, one "mumap" 8888]

def lowerN : List Entry :=
  [two "nGg" 8921 824, two "nGt" 8811 8402, two "nGtv" 8811 824, one "nLeftarrow" 8653,
   one "nLeftrightarrow" 8654, two "nLl" 8920 824, two "nLt" 8810 8402, two "nLtv" 8810 824,
   one "nRightarrow" 8655, one "nVDash" 8879, one "nVdash" 8878, one "nabla" 8711, one "nacute" 324,
   two "nang" 8736 8402, one "nap" 8777, two "napE" 10864 824, two "napid" 8779 824,
   one "napos" 329, one "napprox" 8777, one "natur" 9838, one "natural" 9838, one "naturals" 8469,
   one "nbsp" 160, two "nbump" 8782 824, two "nbumpe" 8783 824, one "ncap" 10819, one "ncaron" 328,
   one "ncedil" 326, one "ncong" 8775, two "ncongdot" 10861 824, one "ncup" 10818, one "ncy" 1085,
   one "ndash" 8211, one "ne" 8800, one "neArr" 8663, one "nearhk" 10532, one "nearr" 8599,
   one "nearrow" 8599, two "nedot" 8784 824, one "nequiv" 8802, one "nesear" 10536,
   two "nesim" 8770 824, one "nexist" 8708, one "nexists" 8708, one "nfr" 120107,
   two "ngE" 8807 824, one "nge" 8817, one "ngeq" 8817, two "ngeqq" 8807 824,
   two "ngeqslant" 10878 824, two "nges" 10878 824, one "ngsim" 8821, one "ngt" 8815,
   one "ngtr" 8815, one "nhArr" 8654, one "nharr" 8622, one "nhpar" 10994, one "ni" 8715,
   one "nis" 8956, one "nisd" 8954, one "niv" 8715, one "njcy" 1114, one "nlArr" 8653,
   two "nlE" 8806 824, one "nlarr" 8602, one "nldr" 8229, one "nle" 8816, one "nleftarrow" 8602,
   one "nleftrightarrow" 8622, one "nleq" 8816, two "nleqq" 8806 824, two "nleqslant" 10877 824,
   two "nles" 10877 824, one "nless" 8814, one "nlsim" 8820, one "nlt" 8814, one "nltri" 8938,
   one "nltrie" 8940, one "nmid" 8740, one "nopf" 120159, one "not" 172, one "notin" 8713,
   two "notinE" 8953 824, two "notindot" 8949 824, one "notinva" 8713, one "notinvb" 8951,
   one "notinvc" 8950, one "notni" 8716, one "notniva" 8716, one "notnivb" 8958, one "notnivc" 8957,
   one "npar" 8742, one "nparallel" 8742, two "nparsl" 11005 8421, two "npart" 8706 824,
   one "npolint" 10772, one "npr" 8832, one "nprcue" 8928, two "npre" 10927 824, one "nprec" 8832,
   two "npreceq" 10927 824, one "nrArr" 8655, one "nrarr" 8603, two "nrarrc" 10547 824,
   two "nrarrw" 8605 824, one "nrightarrow" 8603, one "nrtri" 8939, one "nrtrie" 8941,
   one "nsc" 8833, one "nsccue" 8929, two "nsce" 10928 824, one "nscr" 120003, one "nshortmid" 8740,
   one "nshortparallel" 8742, one "nsim" 8769, one "nsime" 8772, one "nsimeq" 8772,
   one "nsmid" 8740, one "nspar" 8742, one "nsqsube" 8930, one "nsqsupe" 8931, one "nsub" 8836,
   two "nsubE" 10949 824, one "nsube" 8840, two "nsubset" 8834 8402, one "nsubseteq" 8840,
   two "nsubseteqq" 10949 824, one "nsucc" 8833, two "nsucceq" 10928 824, one "nsup" 8837,
   two "nsupE" 10950 824, one "nsupe" 8841, two "nsupset" 8835 8402, one "nsupseteq" 8841,
   two "nsupseteqq" 10950 824, one "ntgl" 8825, one "ntilde" 241, one "ntlg" 8824,
   one "ntriangleleft" 8938, one "ntrianglelefteq" 8940, one "ntriangleright" 8939,
   one "ntrianglerighteq" 8941, one "nu" 957, one "num" 35, one "numero" 8470, one "numsp" 8199,
   one "nvDash" 8877, one "nvHarr" 10500, two "nvap" 8781 8402, one "nvdash" 8876,
   two "nvge" 8805 8402, two "nvgt" 62 8402, one "nvinfin" 10718, one "nvlArr" 10498,
   two "nvle" 8804 8402, two "nvlt" 60 8402, two "nvltrie" 8884 8402, one "nvrArr" 10499,
   two "nvrtrie" 8885 8402, two "nvsim" 8764 8402, one "nwArr" 8662, one "nwarhk" 10531,
   one "nwarr" 8598, one "nwarrow" 8598, one "nwnear" 10535]

def lowerO : List Entry :=
  [one "oS" 9416, one "oacute" 243, one "oast" 8859, one "ocir" 8858, one "ocirc" 244,
   one "ocy" 1086, one "odash" 8861, one "odblac" 337, one "odiv" 10808, one "odot" 8857,
   one "odsold" 10684, one "oelig" 339, one "ofcir" 10687, one "ofr" 120108, one "ogon" 731,
   one "ograve" 242, one "ogt" 10689, one "ohbar" 10677, one "ohm" 937, one "oint" 8750,
   one "olarr" 8634, one "olcir" 10686, one "olcross" 10683, one "oline" 8254, one "olt" 10688,
   one "omacr" 333, one "omega" 969, one "omicron" 959, one "omid" 10678, one "ominus" 8854,
   one "oopf" 120160, one "opar" 10679, one "operp" 10681, one "oplus" 8853, one "or" 8744,
   one "orarr" 8635, one "ord" 10845, one "order" 8500, one "orderof" 8500, one "ordf" 170,
   one "ordm" 186, one "origof" 8886, one "oror" 10838, one "orslope" 10839, one "orv" 10843,
   one "oscr" 8500, one "oslash" 248, one "osol" 8856, one "otilde" 245, one "otimes" 8855,
   one "otimesas" 10806, one "ouml" 246, one "ovbar" 9021]

def lowerP : List Entry :=
  [one "par" 8741, one "para" 182, one "parallel" 8741, one "parsim" 10995, one "parsl" 11005,
   one "part" 8706, one "pcy" 1087, one "percnt" 37, one "period" 46, one "permil" 8240,
   one "perp" 8869, one "pertenk" 8241, one "pfr" 120109, one "phi" 966, one "phiv" 981,
   one "phmmat" 8499, one "phone" 9742, one "pi" 960, one "pitchfork" 8916, one "piv" 982,
   one "planck" 8463, one "planckh" 8462, one "plankv" 8463, one "plus" 43, one "plusacir" 10787,
   one "plusb" 8862, one "pluscir" 10786, one "plusdo" 8724, one "plusdu" 10789, one "pluse" 10866,
   one "plusmn" 177, one "plussim" 10790, one "plustwo" 10791, one "pm" 177, one "pointint" 10773,
   one "popf" 120161, one "pound" 163, one "pr" 8826, one "prE" 10931, one "prap" 10935,
   one "prcue" 8828, one "pre" 10927, one "prec" 8826, one "precapprox" 10935,
   one "preccurlyeq" 8828, one "preceq" 10927, one "precnapprox" 10937, one "precneqq" 10933,
   one "precnsim" 8936, one "precsim" 8830, one "prime" 8242, one "primes" 8473, one "prnE" 10933,
   one "prnap" 10937, one "prnsim" 8936, one "prod" 8719, one "profalar" 9006, one "profline" 8978,
   one "profsurf" 8979, one "prop" 8733, one "propto" 8733, one "prsim" 8830, one "prurel" 8880,
   one "pscr" 120005, one "psi" 968, one "puncsp" 8200]

def lowerQ : List Entry :=
  [one "qfr" 120110, one "qint" 10764, one "qopf" 120162, one "qprime" 8279, one "qscr" 120006,
   one "quaternions" 8461, one "quatint" 10774, one "quest" 63, one "questeq" 8799, one "quot" 34]

def lowerR : List Entry :=
  [one "rAarr" 8667, one "rArr" 8658, one "rAtail" 10524, one "rBarr" 10511, one "rHar" 10596,
   two "race" 8765 817, one "racute" 341, one "radic" 8730, one "raemptyv" 10675, one "rang" 10217,
   one "rangd" 10642, one "range" 10661, one "rangle" 10217, one "raquo" 187, one "rarr" 8594,
   one "rarrap" 10613, one "rarrb" 8677, one "rarrbfs" 10528, one "rarrc" 10547, one "rarrfs" 10526,
   one "rarrhk" 8618, one "rarrlp" 8620, one "rarrpl" 10565, one "rarrsim" 10612, one "rarrtl" 8611,
   one "rarrw" 8605, one "ratail" 10522, one "ratio" 8758, one "rationals" 8474, one "rbarr" 10509,
   one "rbbrk" 10099, one "rbrace" 125, one "rbrack" 93, one "rbrke" 10636, one "rbrksld" 10638,
   one "rbrkslu" 10640, one "rcaron" 345, one "rcedil" 343, one "rceil" 8969, one "rcub" 125,
   one "rcy" 1088, one "rdca" 10551, one "rdldhar" 10601, one "rdquo" 8221, one "rdquor" 8221,
   one "rdsh" 8627, one "real" 8476, one "realine" 8475, one "realpart" 8476, one "reals" 8477,
   one "rect" 9645, one "reg" 174, one "rfisht" 10621, one "rfloor" 8971, one "rfr" 120111,
   one "rhard" 8641, one "rharu" 8640, one "rharul" 10604, one "rho" 961, one "rhov" 1009,
   one "rightarrow" 8594, one "rightarrowtail" 8611, one "rightharpoondown" 8641,
   one "rightharpoonup" 8640, one "rightleftarrows" 8644, one "rightleftharpoons" 8652,
   one "rightrightarrows" 8649, one "rightsquigarrow" 8605, one "rightthreetimes" 8908,
   one "ring" 730, one "risingdotseq" 8787, one "rlarr" 8644, one "rlhar" 8652, one "rlm" 8207,
   one "rmoust" 9137, one "rmoustache" 9137, one "rnmid" 10990, one "roang" 10221, one "roarr" 8702,
   one "robrk" 10215, one "ropar" 10630, one "ropf" 120163, one "roplus" 10798, one "rotimes" 10805,
   one "rpar" 41, one "rpargt" 10644, one "rppolint" 10770, one "rrarr" 8649, one "rsaquo" 8250,
   one "rscr" 120007, one "rsh" 8625, one "rsqb" 93, one "rsquo" 8217, one "rsquor" 8217,
   one "rthree" 8908, one "rtimes" 8906, one "rtri" 9657, one "rtrie" 8885, one "rtrif" 9656,
   one "rtriltri" 10702, one "ruluhar" 10600, one "rx" 8478]

def lowerS : List Entry :=
  [one "sacute" 347, one "sbquo" 8218, one "sc" 8827, one "scE" 10932, one "scap" 10936,
   one "scaron" 353, one "sccue" 8829, one "sce" 10928, one "scedil" 351, one "scirc" 349,
   one "scnE" 10934, one "scnap" 10938, one "scnsim" 8937, one "scpolint" 10771, one "scsim" 8831,
   one "scy" 1089, one "sdot" 8901, one "sdotb" 8865, one "sdote" 10854, one "seArr" 8664,
   one "searhk" 10533, one "searr" 8600, one "searrow" 8600, one "sect" 167, one "semi" 59,
   one "seswar" 10537, one "setminus" 8726, one "setmn" 8726, one "sext" 10038, one "sfr" 120112,
   one "sfrown" 8994, one "sharp" 9839, one "shchcy" 1097, one "shcy" 1096, one "shortmid" 8739,
   one "shortparallel" 8741, one "shy" 173, one "sigma" 963, one "sigmaf" 962, one "sigmav" 962,
   one "sim" 8764, one "simdot" 10858, one "sime" 8771, one "simeq" 8771, one "simg" 10910,
   one "simgE" 10912, one "siml" 10909, one "simlE" 10911, one "simne" 8774, one "simplus" 10788,
   one "simrarr" 10610, one "slarr" 8592, one "smallsetminus" 8726, one "smashp" 10803,
   one "smeparsl" 10724, one "smid" 8739, one "smile" 8995, one "smt" 10922, one "smte" 10924,
   two "smtes" 10924 65024, one "softcy" 1100, one "sol" 47, one "solb" 10692, one "solbar" 9023,
   one "sopf" 120164, one "spades" 9824, one "spadesuit" 9824, one "spar" 8741, one "sqcap" 8851,
   two "sqcaps" 8851 65024, one "sqcup" 8852, two "sqcups" 8852 65024, one "sqsub" 8847,
   one "sqsube" 8849, one "sqsubset" 8847, one "sqsubseteq" 8849, one "sqsup" 8848,
   one "sqsupe" 8850, one "sqsupset" 8848, one "sqsupseteq" 8850, one "squ" 9633, one "square" 9633,
   one "squarf" 9642, one "squf" 9642, one "srarr" 8594, one "sscr" 120008, one "ssetmn" 8726,
   one "ssmile" 8995, one "sstarf" 8902, one "star" 9734, one "starf" 9733,
   one "straightepsilon" 1013, one "straightphi" 981, one "strns" 175, one "sub" 8834,
   one "subE" 10949, one "subdot" 10941, one "sube" 8838, one "subedot" 10947, one "submult" 10945,
   one "subnE" 10955, one "subne" 8842, one "subplus" 10943, one "subrarr" 10617, one "subset" 8834,
   one "subseteq" 8838, one "subseteqq" 10949, one "subsetneq" 8842, one "subsetneqq" 10955,
   one "subsim" 10951, one "subsub" 10965, one "subsup" 10963, one "succ" 8827,
   one "succapprox" 10936, one "succcurlyeq" 8829, one "succeq" 10928, one "succnapprox" 10938,
   one "succneqq" 10934, one "succnsim" 8937, one "succsim" 8831, one "sum" 8721, one "sung" 9834,
   one "sup" 8835, one "sup1" 185, one "sup2" 178, one "sup3" 179, one "supE" 10950,
   one "supdot" 10942, one "supdsub" 10968, one "supe" 8839, one "supedot" 10948,
   one "suphsol" 10185, one "suphsub" 10967, one "suplarr" 10619, one "supmult" 10946,
   one "supnE" 10956, one "supne" 8843, one "supplus" 10944, one "supset" 8835, one "supseteq" 8839,
   one "supseteqq" 10950, one "supsetneq" 8843, one "supsetneqq" 10956, one "supsim" 10952,
   one "supsub" 10964, one "supsup" 10966, one "swArr" 8665, one "swarhk" 10534, one "swarr" 8601,
   one "swarrow" 8601, one "swnwar" 10538, one "szlig" 223]

def lowerT : List Entry :=
  [one "target" 8982, one "tau" 964, one "tbrk" 9140, one "tcaron" 357, one "tcedil" 355,
   one "tcy" 1090, one "tdot" 8411, one "telrec" 8981, one "tfr" 120113, one "there4" 8756,
   one "therefore" 8756, one "theta" 952, one "thetasym" 977, one "thetav" 977,
   one "thickapprox" 8776, one "thicksim" 8764, one "thinsp" 8201, one "thkap" 8776,
   one "thksim" 8764, one "thorn" 254, one "tilde" 732, one "times" 215, one "timesb" 8864,
   one "timesbar" 10801, one "timesd" 10800, one "tint" 8749, one "toea" 10536, one "top" 8868,
   one "topbot" 9014, one "topcir" 10993, one "topf" 120165, one "topfork" 10970, one "tosa" 10537,
   one "tprime" 8244, one "trade" 8482, one "triangle" 9653, one "triangledown" 9663,
   one "triangleleft" 9667, one "trianglelefteq" 8884, one "triangleq" 8796,
   one "triangleright" 9657, one "trianglerighteq" 8885, one "tridot" 9708, one "trie" 8796,
   one "triminus" 10810, one "triplus" 10809, one "trisb" 10701, one "tritime" 10811,
   one "trpezium" 9186, one "tscr" 120009, one "tscy" 1094, one "tshcy" 1115, one "tstrok" 359,
   one "twixt" 8812, one "twoheadleftarrow" 8606, one "twoheadrightarrow" 8608]

def lowerU : List Entry :=
  [one "uArr" 8657, one "uHar" 10595, one "uacute" 250, one "uarr" 8593, one "ubrcy" 1118,
   one "ubreve" 365, one "ucirc" 251, one "ucy" 1091, one "udarr" 8645, one "udblac" 369,
   one "udhar" 10606, one "ufisht" 10622, one "ufr" 120114, one "ugrave" 249, one "uharl" 8639,
   one "uharr" 8638, one "uhblk" 9600, one "ulcorn" 8988, one "ulcorner" 8988, one "ulcrop" 8975,
   one "ultri" 9720, one "umacr" 363, one "uml" 168, one "uogon" 371, one "uopf" 120166,
   one "uparrow" 8593, one "updownarrow" 8597, one "upharpoonleft" 8639, one "upharpoonright" 8638,
   one "uplus" 8846, one "upsi" 965, one "upsih" 978, one "upsilon" 965, one "upuparrows" 8648,
   one "urcorn" 8989, one "urcorner" 8989, one "urcrop" 8974, one "uring" 367, one "urtri" 9721,
   one "uscr" 120010, one "utdot" 8944, one "utilde" 361, one "utri" 9653, one "utrif" 9652,
   one "uuarr" 8648, one "uuml" 252, one "uwangle" 10663]

def lowerV : List Entry :=
  [one "vArr" 8661, one "vBar" 10984, one "vBarv" 10985, one "vDash" 8872, one "vangrt" 10652,
   one "varepsilon" 1013, one "varkappa" 1008, one "varnothing" 8709, one "varphi" 981,
   one "varpi" 982, one "varpropto" 8733, one "varr" 8597, one "varrho" 1009, one "varsigma" 962,
   two "varsubsetneq" 8842 65024, two "varsubsetneqq" 10955 65024, two "varsupsetneq" 8843 65024,
   two "varsupsetneqq" 10956 65024, one "vartheta" 977, one "vartriangleleft" 8882,
   one "vartriangleright" 8883, one "vcy" 1074, one "vdash" 8866, one "vee" 8744, one "veebar" 8891,
   one "veeeq" 8794, one "vellip" 8942, one "verbar" 124, one "vert" 124, one "vfr" 120115,
   one "vltri" 8882, two "vnsub" 8834 8402, two "vnsup" 8835 8402, one "vopf" 120167,
   one "vprop" 8733, one "vrtri" 8883, one "vscr" 120011, two "vsubnE" 10955 65024,
   two "vsubne" 8842 65024, two "vsupnE" 10956 65024, two "vsupne" 8843 65024, one "vzigzag" 10650]

def lowerW : List Entry :=
  [one "wcirc" 373, one "wedbar" 10847, one "wedge" 8743, one "wedgeq" 8793, one "weierp" 8472,
   one "wfr" 120116, one "wopf" 120168, one "wp" 8472, one "wr" 8768, one "wreath" 8768,
   one "wscr" 120012]

def lowerX : List Entry :=
  [one "xcap" 8898, one "xcirc" 9711, one "xcup" 8899, one "xdtri" 9661, one "xfr" 120117,
   one "xhArr" 10234, one "xharr" 10231, one "xi" 958, one "xlArr" 10232, one "xlarr" 10229,
   one "xmap" 10236, one "xnis" 8955, one "xodot" 10752, one "xopf" 120169, one "xoplus" 10753,
   one "xotime" 10754, one "xrArr" 10233, one "xrarr" 10230, one "xscr" 120013, one "xsqcup" 10758,
   one "xuplus" 10756, one "xutri" 9651, one "xvee" 8897, one "xwedge" 8896]

def lowerY : List Entry :=
  [one "yacute" 253, one "yacy" 1103, one "ycirc" 375, one "ycy" 1099, one "yen" 165,
   one "yfr" 120118, one "yicy" 1111, one "yopf" 120170, one "yscr" 120014, one "yucy" 1102,
   one "yuml" 255]

def lowerZ : List Entry :=
  [one "zacute" 378, one "zcaron" 382, one "zcy" 1079, one "zdot" 380, one "zeetrf" 8488,
   one "zeta" 950, one "zfr" 120119, one "zhcy" 1078, one "zigrarr" 8669, one "zopf" 120171,
   one "zscr" 120015, one "zwj" 8205, one "zwnj" 8204]

/-- The names that begin with the character `c`. -/
def startingWith (c : Char) : List Entry :=
  match c with
  | 'A' => upperA
  | 'B' => upperB
  | 'C' => upperC
  | 'D' => upperD
  | 'E' => upperE
  | 'F' => upperF
  | 'G' => upperG
  | 'H' => upperH
  | 'I' => upperI
  | 'J' => upperJ
  | 'K' => upperK
  | 'L' => upperL
  | 'M' => upperM
  | 'N' => upperN
  | 'O' => upperO
  | 'P' => upperP
  | 'Q' => upperQ
  | 'R' => upperR
  | 'S' => upperS
  | 'T' => upperT
  | 'U' => upperU
  | 'V' => upperV
  | 'W' => upperW
  | 'X' => upperX
  | 'Y' => upperY
  | 'Z' => upperZ
  | 'a' => lowerA
  | 'b' => lowerB
  | 'c' => lowerC
  | 'd' => lowerD
  | 'e' => lowerE
  | 'f' => lowerF
  | 'g' => lowerG
  | 'h' => lowerH
  | 'i' => lowerI
  | 'j' => lowerJ
  | 'k' => lowerK
  | 'l' => lowerL
  | 'm' => lowerM
  | 'n' => lowerN
  | 'o' => lowerO
  | 'p' => lowerP
  | 'q' => lowerQ
  | 'r' => lowerR
  | 's' => lowerS
  | 't' => lowerT
  | 'u' => lowerU
  | 'v' => lowerV
  | 'w' => lowerW
  | 'x' => lowerX
  | 'y' => lowerY
  | 'z' => lowerZ
  | _ => []

/-- Names that may be written without the final `;`, the longest first. -/
def bareNames : List String :=
  ["Aacute", "Agrave", "Atilde", "Ccedil", "Eacute", "Egrave", "Iacute", "Igrave", "Ntilde",
   "Oacute", "Ograve", "Oslash", "Otilde", "Uacute", "Ugrave", "Yacute", "aacute", "agrave",
   "atilde", "brvbar", "ccedil", "curren", "divide", "eacute", "egrave", "frac12", "frac14",
   "frac34", "iacute", "igrave", "iquest", "middot", "ntilde", "oacute", "ograve", "oslash",
   "otilde", "plusmn", "uacute", "ugrave", "yacute", "AElig", "Acirc", "Aring", "Ecirc", "Icirc",
   "Ocirc", "THORN", "Ucirc", "acirc", "acute", "aelig", "aring", "cedil", "ecirc", "icirc",
   "iexcl", "laquo", "micro", "ocirc", "pound", "raquo", "szlig", "thorn", "times", "ucirc", "Auml",
   "COPY", "Euml", "Iuml", "Ouml", "QUOT", "Uuml", "auml", "cent", "copy", "euml", "iuml", "macr",
   "nbsp", "ordf", "ordm", "ouml", "para", "quot", "sect", "sup1", "sup2", "sup3", "uuml", "yuml",
   "AMP", "ETH", "REG", "amp", "deg", "eth", "not", "reg", "shy", "uml", "yen", "GT", "LT", "gt",
   "lt"]

/-! ## Look-up -/

/-- The text that a name stands for. -/
def named? (name : Text) : Option Text :=
  match name with
  | [] => none
  | c :: _ => ((startingWith c).find? fun e => e.name.toList == name).map Entry.text

end DocStub.Markup.CharRef
