import ArchLint.Text.Table

namespace ArchLint.Text

/-- What a character contributes to a cluster. -/
inductive ClusterRole where
  | other
  /-- A mark or modifier of the character before it. -/
  | extending
  /-- The joiner between pictographs. -/
  | joiner
  /-- A mark that takes room. -/
  | spacing
  /-- A sign that belongs to the character after it. -/
  | leading
  /-- A control character, which stands alone. -/
  | control
  | carriageReturn
  | lineFeed
  /-- Half of a flag. -/
  | flagHalf
  /-- Hangul letters and syllables: initial consonant, vowel, final
  consonant, and syllables without and with a final consonant. -/
  | hangulLead
  | hangulVowel
  | hangulTail
  | hangulOpen
  | hangulClosed
  | pictograph
  deriving DecidableEq, Repr

/-- Roles other than the plain one, by number. -/
def clusterRoles : ClassTable :=
  ClassTable.ofText
    "0-9/1>5 b-c/1>5 e-1f/1>5 7f-9f/1>5 a9>a ad>5 ae>a 300-36f/1>1
    483-489/1>1 591-5bd/1>1 5bf>1 5c1-5c2/1>1 5c4-5c5/1>1 5c7>1
    600-605/1>4 610-61a/1>1 61c>5 64b-65f/1>1 670>1 6d6-6dc/1>1 6dd>4
    6df-6e4/1>1 6e7-6e8/1>1 6ea-6ed/1>1 70f>4 711>1 730-74a/1>1
    7a6-7b0/1>1 7eb-7f3/1>1 7fd>1 816-819/1>1 81b-823/1>1 825-827/1>1
    829-82d/1>1 859-85b/1>1 890-891/1>4 898-89f/1>1 8ca-8e1/1>1 8e2>4
    8e3-902/1>1 903>3 93a>1 93b>3 93c>1 93e-940/1>3 941-948/1>1
    949-94c/1>3 94d>1 94e-94f/1>3 951-957/1>1 962-963/1>1 981>1
    982-983/1>3 9bc>1 9be>1 9bf-9c0/1>3 9c1-9c4/1>1 9c7-9c8/1>3
    9cb-9cc/1>3 9cd>1 9d7>1 9e2-9e3/1>1 9fe>1 a01-a02/1>1 a03>3 a3c>1
    a3e-a40/1>3 a41-a42/1>1 a47-a48/1>1 a4b-a4d/1>1 a51>1 a70-a71/1>1
    a75>1 a81-a82/1>1 a83>3 abc>1 abe-ac0/1>3 ac1-ac5/1>1 ac7-ac8/1>1
    ac9>3 acb-acc/1>3 acd>1 ae2-ae3/1>1 afa-aff/1>1 b01>1 b02-b03/1>3
    b3c>1 b3e-b3f/1>1 b40>3 b41-b44/1>1 b47-b48/1>3 b4b-b4c/1>3 b4d>1
    b55-b57/1>1 b62-b63/1>1 b82>1 bbe>1 bbf>3 bc0>1 bc1-bc2/1>3
    bc6-bc8/1>3 bca-bcc/1>3 bcd>1 bd7>1 c00>1 c01-c03/1>3 c04>1 c3c>1
    c3e-c40/1>1 c41-c44/1>3 c46-c48/1>1 c4a-c4d/1>1 c55-c56/1>1
    c62-c63/1>1 c81>1 c82-c83/1>3 cbc>1 cbe>3 cbf>1 cc0-cc1/1>3 cc2>1
    cc3-cc4/1>3 cc6>1 cc7-cc8/1>3 cca-ccb/1>3 ccc-ccd/1>1 cd5-cd6/1>1
    ce2-ce3/1>1 cf3>3 d00-d01/1>1 d02-d03/1>3 d3b-d3c/1>1 d3e>1
    d3f-d40/1>3 d41-d44/1>1 d46-d48/1>3 d4a-d4c/1>3 d4d>1 d4e>4 d57>1
    d62-d63/1>1 d81>1 d82-d83/1>3 dca>1 dcf>1 dd0-dd1/1>3 dd2-dd4/1>1
    dd6>1 dd8-dde/1>3 ddf>1 df2-df3/1>3 e31>1 e33>3 e34-e3a/1>1
    e47-e4e/1>1 eb1>1 eb3>3 eb4-ebc/1>1 ec8-ece/1>1 f18-f19/1>1 f35>1
    f37>1 f39>1 f3e-f3f/1>3 f71-f7e/1>1 f7f>3 f80-f84/1>1 f86-f87/1>1
    f8d-f97/1>1 f99-fbc/1>1 fc6>1 102d-1030/1>1 1031>3 1032-1037/1>1
    1039-103a/1>1 103b-103c/1>3 103d-103e/1>1 1056-1057/1>3 1058-1059/1>1
    105e-1060/1>1 1071-1074/1>1 1082>1 1084>3 1085-1086/1>1 108d>1 109d>1
    1100-115f/1>7 1160-11a7/1>8 11a8-11ff/1>9 135d-135f/1>1 1712-1714/1>1
    1715>3 1732-1733/1>1 1734>3 1752-1753/1>1 1772-1773/1>1 17b4-17b5/1>1
    17b6>3 17b7-17bd/1>1 17be-17c5/1>3 17c6>1 17c7-17c8/1>3 17c9-17d3/1>1
    17dd>1 180b-180d/1>1 180e>5 180f>1 1885-1886/1>1 18a9>1 1920-1922/1>1
    1923-1926/1>3 1927-1928/1>1 1929-192b/1>3 1930-1931/1>3 1932>1
    1933-1938/1>3 1939-193b/1>1 1a17-1a18/1>1 1a19-1a1a/1>3 1a1b>1 1a55>3
    1a56>1 1a57>3 1a58-1a5e/1>1 1a60>1 1a62>1 1a65-1a6c/1>1 1a6d-1a72/1>3
    1a73-1a7c/1>1 1a7f>1 1ab0-1ace/1>1 1b00-1b03/1>1 1b04>3 1b34-1b3a/1>1
    1b3b>3 1b3c>1 1b3d-1b41/1>3 1b42>1 1b43-1b44/1>3 1b6b-1b73/1>1
    1b80-1b81/1>1 1b82>3 1ba1>3 1ba2-1ba5/1>1 1ba6-1ba7/1>3 1ba8-1ba9/1>1
    1baa>3 1bab-1bad/1>1 1be6>1 1be7>3 1be8-1be9/1>1 1bea-1bec/1>3 1bed>1
    1bee>3 1bef-1bf1/1>1 1bf2-1bf3/1>3 1c24-1c2b/1>3 1c2c-1c33/1>1
    1c34-1c35/1>3 1c36-1c37/1>1 1cd0-1cd2/1>1 1cd4-1ce0/1>1 1ce1>3
    1ce2-1ce8/1>1 1ced>1 1cf4>1 1cf7>3 1cf8-1cf9/1>1 1dc0-1dff/1>1 200b>5
    200c>1 200d>2 200e-200f/1>5 2028-202e/1>5 203c>a 2049>a 2060-206f/1>5
    20d0-20f0/1>1 2122>a 2139>a 2194-2199/1>a 21a9-21aa/1>a 231a-231b/1>a
    2328>a 2388>a 23cf>a 23e9-23f3/1>a 23f8-23fa/1>a 24c2>a 25aa-25ab/1>a
    25b6>a 25c0>a 25fb-25fe/1>a 2600-2605/1>a 2607-2612/1>a 2614-2685/1>a
    2690-2705/1>a 2708-2712/1>a 2714>a 2716>a 271d>a 2721>a 2728>a
    2733-2734/1>a 2744>a 2747>a 274c>a 274e>a 2753-2755/1>a 2757>a
    2763-2767/1>a 2795-2797/1>a 27a1>a 27b0>a 27bf>a 2934-2935/1>a
    2b05-2b07/1>a 2b1b-2b1c/1>a 2b50>a 2b55>a 2cef-2cf1/1>1 2d7f>1
    2de0-2dff/1>1 302a-302f/1>1 3030>a 303d>a 3099-309a/1>1 3297>a 3299>a
    a66f-a672/1>1 a674-a67d/1>1 a69e-a69f/1>1 a6f0-a6f1/1>1 a802>1 a806>1
    a80b>1 a823-a824/1>3 a825-a826/1>1 a827>3 a82c>1 a880-a881/1>3
    a8b4-a8c3/1>3 a8c4-a8c5/1>1 a8e0-a8f1/1>1 a8ff>1 a926-a92d/1>1
    a947-a951/1>1 a952-a953/1>3 a960-a97c/1>7 a980-a982/1>1 a983>3 a9b3>1
    a9b4-a9b5/1>3 a9b6-a9b9/1>1 a9ba-a9bb/1>3 a9bc-a9bd/1>1 a9be-a9c0/1>3
    a9e5>1 aa29-aa2e/1>1 aa2f-aa30/1>3 aa31-aa32/1>1 aa33-aa34/1>3
    aa35-aa36/1>1 aa43>1 aa4c>1 aa4d>3 aa7c>1 aab0>1 aab2-aab4/1>1
    aab7-aab8/1>1 aabe-aabf/1>1 aac1>1 aaeb>3 aaec-aaed/1>1 aaee-aaef/1>3
    aaf5>3 aaf6>1 abe3-abe4/1>3 abe5>1 abe6-abe7/1>3 abe8>1 abe9-abea/1>3
    abec>3 abed>1 d7b0-d7c6/1>8 d7cb-d7fb/1>9 fb1e>1 fe00-fe0f/1>1
    fe20-fe2f/1>1 feff>5 ff9e-ff9f/1>1 fff0-fffb/1>5 101fd>1 102e0>1
    10376-1037a/1>1 10a01-10a03/1>1 10a05-10a06/1>1 10a0c-10a0f/1>1
    10a38-10a3a/1>1 10a3f>1 10ae5-10ae6/1>1 10d24-10d27/1>1
    10eab-10eac/1>1 10efd-10eff/1>1 10f46-10f50/1>1 10f82-10f85/1>1
    11000>3 11001>1 11002>3 11038-11046/1>1 11070>1 11073-11074/1>1
    1107f-11081/1>1 11082>3 110b0-110b2/1>3 110b3-110b6/1>1
    110b7-110b8/1>3 110b9-110ba/1>1 110bd>4 110c2>1 110cd>4
    11100-11102/1>1 11127-1112b/1>1 1112c>3 1112d-11134/1>1
    11145-11146/1>3 11173>1 11180-11181/1>1 11182>3 111b3-111b5/1>3
    111b6-111be/1>1 111bf-111c0/1>3 111c2-111c3/1>4 111c9-111cc/1>1
    111ce>3 111cf>1 1122c-1122e/1>3 1122f-11231/1>1 11232-11233/1>3
    11234>1 11235>3 11236-11237/1>1 1123e>1 11241>1 112df>1
    112e0-112e2/1>3 112e3-112ea/1>1 11300-11301/1>1 11302-11303/1>3
    1133b-1133c/1>1 1133e>1 1133f>3 11340>1 11341-11344/1>3
    11347-11348/1>3 1134b-1134d/1>3 11357>1 11362-11363/1>3
    11366-1136c/1>1 11370-11374/1>1 11435-11437/1>3 11438-1143f/1>1
    11440-11441/1>3 11442-11444/1>1 11445>3 11446>1 1145e>1 114b0>1
    114b1-114b2/1>3 114b3-114b8/1>1 114b9>3 114ba>1 114bb-114bc/1>3
    114bd>1 114be>3 114bf-114c0/1>1 114c1>3 114c2-114c3/1>1 115af>1
    115b0-115b1/1>3 115b2-115b5/1>1 115b8-115bb/1>3 115bc-115bd/1>1
    115be>3 115bf-115c0/1>1 115dc-115dd/1>1 11630-11632/1>3
    11633-1163a/1>1 1163b-1163c/1>3 1163d>1 1163e>3 1163f-11640/1>1
    116ab>1 116ac>3 116ad>1 116ae-116af/1>3 116b0-116b5/1>1 116b6>3
    116b7>1 1171d-1171f/1>1 11722-11725/1>1 11726>3 11727-1172b/1>1
    1182c-1182e/1>3 1182f-11837/1>1 11838>3 11839-1183a/1>1 11930>1
    11931-11935/1>3 11937-11938/1>3 1193b-1193c/1>1 1193d>3 1193e>1
    1193f>4 11940>3 11941>4 11942>3 11943>1 119d1-119d3/1>3
    119d4-119d7/1>1 119da-119db/1>1 119dc-119df/1>3 119e0>1 119e4>3
    11a01-11a0a/1>1 11a33-11a38/1>1 11a39>3 11a3a>4 11a3b-11a3e/1>1
    11a47>1 11a51-11a56/1>1 11a57-11a58/1>3 11a59-11a5b/1>1
    11a84-11a89/1>4 11a8a-11a96/1>1 11a97>3 11a98-11a99/1>1 11c2f>3
    11c30-11c36/1>1 11c38-11c3d/1>1 11c3e>3 11c3f>1 11c92-11ca7/1>1
    11ca9>3 11caa-11cb0/1>1 11cb1>3 11cb2-11cb3/1>1 11cb4>3
    11cb5-11cb6/1>1 11d31-11d36/1>1 11d3a>1 11d3c-11d3d/1>1
    11d3f-11d45/1>1 11d46>4 11d47>1 11d8a-11d8e/1>3 11d90-11d91/1>1
    11d93-11d94/1>3 11d95>1 11d96>3 11d97>1 11ef3-11ef4/1>1
    11ef5-11ef6/1>3 11f00-11f01/1>1 11f02>4 11f03>3 11f34-11f35/1>3
    11f36-11f3a/1>1 11f3e-11f3f/1>3 11f40>1 11f41>3 11f42>1
    13430-1343f/1>5 13440>1 13447-13455/1>1 16af0-16af4/1>1
    16b30-16b36/1>1 16f4f>1 16f51-16f87/1>3 16f8f-16f92/1>1 16fe4>1
    16ff0-16ff1/1>3 1bc9d-1bc9e/1>1 1bca0-1bca3/1>5 1cf00-1cf2d/1>1
    1cf30-1cf46/1>1 1d165>1 1d166>3 1d167-1d169/1>1 1d16d>3
    1d16e-1d172/1>1 1d173-1d17a/1>5 1d17b-1d182/1>1 1d185-1d18b/1>1
    1d1aa-1d1ad/1>1 1d242-1d244/1>1 1da00-1da36/1>1 1da3b-1da6c/1>1
    1da75>1 1da84>1 1da9b-1da9f/1>1 1daa1-1daaf/1>1 1e000-1e006/1>1
    1e008-1e018/1>1 1e01b-1e021/1>1 1e023-1e024/1>1 1e026-1e02a/1>1
    1e08f>1 1e130-1e136/1>1 1e2ae>1 1e2ec-1e2ef/1>1 1e4ec-1e4ef/1>1
    1e8d0-1e8d6/1>1 1e944-1e94a/1>1 1f000-1f0ff/1>a 1f10d-1f10f/1>a
    1f12f>a 1f16c-1f171/1>a 1f17e-1f17f/1>a 1f18e>a 1f191-1f19a/1>a
    1f1ad-1f1e5/1>a 1f1e6-1f1ff/1>6 1f201-1f20f/1>a 1f21a>a 1f22f>a
    1f232-1f23a/1>a 1f23c-1f23f/1>a 1f249-1f3fa/1>a 1f3fb-1f3ff/1>1
    1f400-1f53d/1>a 1f546-1f64f/1>a 1f680-1f6ff/1>a 1f774-1f77f/1>a
    1f7d5-1f7ff/1>a 1f80c-1f80f/1>a 1f848-1f84f/1>a 1f85a-1f85f/1>a
    1f888-1f88f/1>a 1f8ae-1f8ff/1>a 1f90c-1f93a/1>a 1f93c-1f945/1>a
    1f947-1faff/1>a 1fc00-1fffd/1>a e0000-e001f/1>5 e0020-e007f/1>1
    e0080-e00ff/1>5 e0100-e01ef/1>1 e01f0-e0fff/1>5"

def clusterRole (c : Char) : ClusterRole :=
  let n := c.toNat
  if c = '\n' then .lineFeed
  else if c = '\r' then .carriageReturn
  else if 0xac00 ≤ n ∧ n < 0xd7a4 then
    if (n - 0xac00) % 28 = 0 then .hangulOpen else .hangulClosed
  else
    match clusterRoles.find n with
    | 1 => .extending
    | 2 => .joiner
    | 3 => .spacing
    | 4 => .leading
    | 5 => .control
    | 6 => .flagHalf
    | 7 => .hangulLead
    | 8 => .hangulVowel
    | 9 => .hangulTail
    | 10 => .pictograph
    | _ => .other

/-- What the characters of a cluster so far allow to follow. -/
structure ClusterState where
  /-- The role of the last character. -/
  last : ClusterRole
  /-- The last characters are a pictograph with its marks, and a joiner if
  `last` is one. -/
  pictographOpen : Bool
  /-- The last character is the first half of a flag. -/
  flagOpen : Bool

/-- The state after the first character of a cluster. -/
def ClusterState.start (role : ClusterRole) : ClusterState :=
  ⟨role, role == .pictograph, role == .flagHalf⟩

/-- The state after one more character. -/
def ClusterState.next (s : ClusterState) (role : ClusterRole) : ClusterState where
  last := role
  pictographOpen :=
    role == .pictograph || (s.pictographOpen && s.last != .joiner && (role == .extending || role == .joiner))
  flagOpen := role == .flagHalf && !s.flagOpen

/-- Whether a character of the given role stays in the cluster. -/
def ClusterState.joins (s : ClusterState) (role : ClusterRole) : Bool :=
  match s.last, role with
  | .carriageReturn, .lineFeed => true
  | .control, _ | .carriageReturn, _ | .lineFeed, _ => false
  | _, .control | _, .carriageReturn | _, .lineFeed => false
  | .hangulLead, .hangulLead | .hangulLead, .hangulVowel => true
  | .hangulLead, .hangulOpen | .hangulLead, .hangulClosed => true
  | .hangulOpen, .hangulVowel | .hangulVowel, .hangulVowel => true
  | .hangulOpen, .hangulTail | .hangulVowel, .hangulTail => true
  | .hangulClosed, .hangulTail | .hangulTail, .hangulTail => true
  | _, .extending | _, .joiner | _, .spacing => true
  | .leading, _ => true
  | .joiner, .pictograph => s.pictographOpen
  | .flagHalf, .flagHalf => s.flagOpen
  | _, _ => false

/-- The clusters of a text that goes on after `current`, which holds the
characters of the cluster so far in reverse. -/
def clustersFrom (state : ClusterState) (current : List Char) : List Char → List (List Char)
  | [] => [current.reverse]
  | c :: cs =>
      let role := clusterRole c
      if state.joins role then clustersFrom (state.next role) (c :: current) cs
      else current.reverse :: clustersFrom (.start role) [c] cs

/-- The grapheme clusters of a text. -/
def clusters : List Char → List (List Char)
  | [] => []
  | c :: cs => clustersFrom (.start (clusterRole c)) [c] cs

end ArchLint.Text
