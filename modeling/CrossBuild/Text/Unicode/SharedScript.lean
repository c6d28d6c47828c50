import CrossBuild.Text.CodeRange

/-!
The characters that are in use in more scripts than the one that they belong to, most of them
common or inherited ones.
-/

namespace CrossBuild.Text.Unicode

def sharedScripts : List NamedRanges := [
  { names := ["adlm", "adlam"]
    lines := ["61f 640 204f 2e41"] },
  { names := ["aghb", "caucasianalbanian"]
    lines := ["304 331 35e"] },
  { names := ["arab", "arabic"]
    lines := ["60c 61b 61f 640 64b-655 670 204f 2e41 fd3e-fd3f 102e0-102fb"] },
  { names := ["armn", "armenian"]
    lines := ["308"] },
  { names := ["avst", "avestan"]
    lines := ["b7 2e30-2e31"] },
  { names := ["beng", "bengali"]
    lines := ["2bc 951-952 964-965 1cd0 1cd2 1cd5-1cd6 1cd8 1ce1 1cea 1ced 1cf2 1cf5-1cf7 a8f1"] },
  { names := ["bopo", "bopomofo"]
    lines := [
      "2c7 2c9-2cb 2d9 3001-3003 3008-3011 3013-301f 302a-302d 3030 3037 30fb fe45-fe46",
      "ff61-ff65" ] },
  { names := ["bugi", "buginese"]
    lines := ["a9cf"] },
  { names := ["buhd", "buhid"]
    lines := ["1735-1736"] },
  { names := ["cakm", "chakma"]
    lines := ["9e6-9ef 1040-1049"] },
  { names := ["cari", "carian"]
    lines := ["b7 205a 205d 2e31"] },
  { names := ["cher", "cherokee"]
    lines := ["300-302 304 30b-30c 323-324 330-331"] },
  { names := ["copt", "qaac", "coptic"]
    lines := ["b7 300 304-305 307 374-375 2e17 102e0-102fb"] },
  { names := ["cpmn", "cyprominoan"]
    lines := ["10100-10101"] },
  { names := ["cprt", "cypriot"]
    lines := ["10100-10102 10107-10133 10137-1013f"] },
  { names := ["cyrl", "cyrillic"]
    lines := ["2bc 300-302 304 306 308 30b 311 485-486 1df8 2e43"] },
  { names := ["deva", "devanagari"]
    lines := ["2bc 951-952 964-965 1cd0-1cf6 1cf8-1cf9 20f0 a830-a839"] },
  { names := ["dogr", "dogra"]
    lines := ["964-96f a830-a839"] },
  { names := ["dupl", "duployan"]
    lines := ["b7 307-308 30a 323-324 2e3c 1bca0-1bca3"] },
  { names := ["elba", "elbasan"]
    lines := ["b7 305"] },
  { names := ["ethi", "ethiopic"]
    lines := ["30e"] },
  { names := ["gara", "garay"]
    lines := ["60c 61b 61f"] },
  { names := ["geor", "georgian"]
    lines := ["b7 589 10fb 205a 2e31"] },
  { names := ["glag", "glagolitic"]
    lines := ["b7 303 305 484 487 589 10fb 205a 2e43 a66f"] },
  { names := ["gong", "gunjalagondi"]
    lines := ["b7 964-965"] },
  { names := ["gonm", "masaramgondi"]
    lines := ["964-965"] },
  { names := ["goth", "gothic"]
    lines := ["b7 304-305 308 331"] },
  { names := ["gran", "grantha"]
    lines := [
      "951-952 964-965 be6-bf3 1cd0 1cd2-1cd3 1cf2-1cf4 1cf8-1cf9 20f0 1133b 11fd0-11fd1",
      "11fd3" ] },
  { names := ["grek", "greek"]
    lines := ["b7 300-301 304 306 308 313 342 345 374 1dc0-1dc1 205d"] },
  { names := ["gujr", "gujarati"]
    lines := ["951-952 964-965 a830-a839"] },
  { names := ["gukh", "gurungkhema"]
    lines := ["965"] },
  { names := ["guru", "gurmukhi"]
    lines := ["951-952 964-965 a830-a839"] },
  { names := ["han", "hani"]
    lines := [
      "b7 2ff0-2fff 3001-3003 3006 3008-3011 3013-301f 302a-302d 3030 3037 303c-303f 30fb",
      "3190-319f 31c0-31e5 31ef 3220-3247 3280-32b0 32c0-32cb 32ff 3358-3370 337b-337f",
      "33e0-33fe a700-a707 fe45-fe46 ff61-ff65 1d360-1d371 1f250-1f251" ] },
  { names := ["hang", "hangul"]
    lines := ["3001-3003 3008-3011 3013-301f 3030 3037 30fb fe45-fe46 ff61-ff65"] },
  { names := ["hano", "hanunoo"]
    lines := ["1735-1736"] },
  { names := ["hebr", "hebrew"]
    lines := ["307-308"] },
  { names := ["hira", "hiragana"]
    lines := [
      "3001-3003 3008-3011 3013-301f 3030-3035 3037 303c-303d 3099-309c 30a0 30fb-30fc",
      "fe45-fe46 ff61-ff65 ff70 ff9e-ff9f" ] },
  { names := ["hung", "oldhungarian"]
    lines := ["205a 205d 2e31 2e41"] },
  { names := ["java", "javanese"]
    lines := ["a9cf"] },
  { names := ["kali", "kayahli"]
    lines := ["a92e"] },
  { names := ["kana", "katakana"]
    lines := [
      "305 323 3001-3003 3008-3011 3013-301f 3030-3035 3037 303c-303d 3099-309c 30a0",
      "30fb-30fc fe45-fe46 ff61-ff65 ff70 ff9e-ff9f" ] },
  { names := ["khoj", "khojki"]
    lines := ["ae6-aef a830-a839"] },
  { names := ["knda", "kannada"]
    lines := ["951-952 964-965 1cd0 1cd2-1cd3 1cda 1cf2 1cf4 a830-a835"] },
  { names := ["kthi", "kaithi"]
    lines := ["966-96f 2e31 a830-a839"] },
  { names := ["latn", "latin"]
    lines := [
      "b7 2bc 2c7 2c9-2cb 2cd 2d7 2d9 300-30e 310-311 313 320 323-325 32d-32e 330-331 358 35e",
      "363-36f 485-486 951-952 10fb 1df8 202f 20f0 2e17 a700-a707 a92e" ] },
  { names := ["limb", "limbu"]
    lines := ["965"] },
  { names := ["lina", "lineara"]
    lines := ["10107-10133"] },
  { names := ["linb", "linearb"]
    lines := ["10100-10102 10107-10133 10137-1013f"] },
  { names := ["lisu"]
    lines := ["2bc 2cd 300a-300b"] },
  { names := ["lyci", "lycian"]
    lines := ["205a"] },
  { names := ["lydi", "lydian"]
    lines := ["b7 2e31"] },
  { names := ["mahj", "mahajani"]
    lines := ["b7 964-96f a830-a839"] },
  { names := ["mand", "mandaic"]
    lines := ["640"] },
  { names := ["mani", "manichaean"]
    lines := ["640"] },
  { names := ["mero", "meroitichieroglyphs"]
    lines := ["205d"] },
  { names := ["mlym", "malayalam"]
    lines := ["951-952 964-965 1cda 1cf2 a830-a832"] },
  { names := ["modi"]
    lines := ["a830-a839"] },
  { names := ["mong", "mongolian"]
    lines := ["1802-1803 1805 202f 3001-3002 3008-300b"] },
  { names := ["mult", "multani"]
    lines := ["a66-a6f"] },
  { names := ["mymr", "myanmar"]
    lines := ["a92e"] },
  { names := ["nand", "nandinagari"]
    lines := ["964-965 ce6-cef 1ce9 1cf2 1cfa a830-a835"] },
  { names := ["nko", "nkoo"]
    lines := ["60c 61b 61f fd3e-fd3f"] },
  { names := ["onao", "olonal"]
    lines := ["964-965"] },
  { names := ["orkh", "oldturkic"]
    lines := ["205a 2e30"] },
  { names := ["orya", "oriya"]
    lines := ["951-952 964-965 1cda 1cf2"] },
  { names := ["osge", "osage"]
    lines := ["301 304 30b 358"] },
  { names := ["ougr", "olduyghur"]
    lines := ["640 10af2"] },
  { names := ["perm", "oldpermic"]
    lines := ["b7 300 306-308 313 483"] },
  { names := ["phag", "phagspa"]
    lines := ["1802-1803 1805 202f 3002"] },
  { names := ["phlp", "psalterpahlavi"]
    lines := ["640"] },
  { names := ["rohg", "hanifirohingya"]
    lines := ["60c 61b 61f 640 6d4"] },
  { names := ["runr", "runic"]
    lines := ["16eb-16ed"] },
  { names := ["samr", "samaritan"]
    lines := ["2e31"] },
  { names := ["shaw", "shavian"]
    lines := ["b7"] },
  { names := ["shrd", "sharada"]
    lines := ["951 1cd7 1cd9 1cdc-1cdd 1ce0 a830-a835 a838"] },
  { names := ["sind", "khudawadi"]
    lines := ["964-965 a830-a839"] },
  { names := ["sinh", "sinhala"]
    lines := ["964-965 1cf2"] },
  { names := ["sogd", "sogdian"]
    lines := ["640"] },
  { names := ["sunu", "sunuwar"]
    lines := ["300-301 303 30d 310 32d 331"] },
  { names := ["sylo", "sylotinagri"]
    lines := ["964-965 9e6-9ef"] },
  { names := ["syrc", "syriac"]
    lines := ["303-304 307-308 30a 320 323-325 32d-32e 330 60c 61b-61c 61f 640 64b-655 670 1df8 1dfa"] },
  { names := ["tagb", "tagbanwa"]
    lines := ["1735-1736"] },
  { names := ["takr", "takri"]
    lines := ["964-965 a830-a839"] },
  { names := ["tale", "taile"]
    lines := ["300-301 307-308 30c 1040-1049"] },
  { names := ["taml", "tamil"]
    lines := ["951-952 964-965 1cda a8f3 11301 11303 1133b-1133c"] },
  { names := ["tang", "tangut"]
    lines := ["2ff0-2fff 31ef"] },
  { names := ["telu", "telugu"]
    lines := ["951-952 964-965 1cda 1cf2"] },
  { names := ["tfng", "tifinagh"]
    lines := ["302 304 307 309"] },
  { names := ["tglg", "tagalog"]
    lines := ["1735-1736"] },
  { names := ["thaa", "thaana"]
    lines := ["60c 61b-61c 61f 660-669 fdf2 fdfd"] },
  { names := ["thai"]
    lines := ["2bc 2d7 303 331"] },
  { names := ["tibt", "tibetan"]
    lines := ["3008-300b"] },
  { names := ["tirh", "tirhuta"]
    lines := ["951-952 964-965 1cf2 a830-a839"] },
  { names := ["todr", "todhri"]
    lines := ["301 304 307 311 313 35e"] },
  { names := ["toto"]
    lines := ["2bc"] },
  { names := ["tutg", "tulutigalari"]
    lines := ["ce6-cef 1cf2 1cf4 a830-a835 a8f1"] },
  { names := ["yezi", "yezidi"]
    lines := ["60c 61b 61f 660-669"] },
  { names := ["yi", "yiii"]
    lines := ["3001-3002 3008-3011 3014-301b 30fb ff61-ff65"] } ]

end CrossBuild.Text.Unicode
