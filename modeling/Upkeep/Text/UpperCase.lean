import Upkeep.Text.LowerCase

/-!
Upper case of single characters as of Unicode 14. Most letters are the lower case of their capital;
the rest is a table. Where upper case is several characters, the first of them counts.
-/
namespace Upkeep.Text

/-- Characters that are not the lower case of the first character of their upper case. -/
def irregularUpperRuns : List CaseRun :=
  [⟨0xB5, 0xB5, 1, 0x39C⟩, ⟨0xDF, 0xDF, 1, 0x53⟩, ⟨0x131, 0x131, 1, 0x49⟩, ⟨0x149, 0x149, 1, 0x2BC⟩,
   ⟨0x17F, 0x17F, 1, 0x53⟩, ⟨0x1C5, 0x1C5, 1, 0x1C4⟩, ⟨0x1C8, 0x1C8, 1, 0x1C7⟩,
   ⟨0x1CB, 0x1CB, 1, 0x1CA⟩, ⟨0x1F0, 0x1F0, 1, 0x4A⟩, ⟨0x1F2, 0x1F2, 1, 0x1F1⟩,
   ⟨0x345, 0x345, 1, 0x399⟩, ⟨0x390, 0x390, 1, 0x399⟩, ⟨0x3B0, 0x3B0, 1, 0x3A5⟩,
   ⟨0x3C2, 0x3C2, 1, 0x3A3⟩, ⟨0x3D0, 0x3D0, 1, 0x392⟩, ⟨0x3D1, 0x3D1, 1, 0x398⟩,
   ⟨0x3D5, 0x3D5, 1, 0x3A6⟩, ⟨0x3D6, 0x3D6, 1, 0x3A0⟩, ⟨0x3F0, 0x3F0, 1, 0x39A⟩,
   ⟨0x3F1, 0x3F1, 1, 0x3A1⟩, ⟨0x3F5, 0x3F5, 1, 0x395⟩, ⟨0x587, 0x587, 1, 0x535⟩,
   ⟨0x1C80, 0x1C80, 1, 0x412⟩, ⟨0x1C81, 0x1C81, 1, 0x414⟩, ⟨0x1C82, 0x1C82, 1, 0x41E⟩,
   ⟨0x1C83, 0x1C84, 1, 0x421⟩, ⟨0x1C85, 0x1C85, 1, 0x422⟩, ⟨0x1C86, 0x1C86, 1, 0x42A⟩,
   ⟨0x1C87, 0x1C87, 1, 0x462⟩, ⟨0x1C88, 0x1C88, 1, 0xA64A⟩, ⟨0x1E96, 0x1E96, 1, 0x48⟩,
   ⟨0x1E97, 0x1E97, 1, 0x54⟩, ⟨0x1E98, 0x1E98, 1, 0x57⟩, ⟨0x1E99, 0x1E99, 1, 0x59⟩,
   ⟨0x1E9A, 0x1E9A, 1, 0x41⟩, ⟨0x1E9B, 0x1E9B, 1, 0x1E60⟩, ⟨0x1F50, 0x1F50, 1, 0x3A5⟩,
   ⟨0x1F52, 0x1F52, 1, 0x3A5⟩, ⟨0x1F54, 0x1F54, 1, 0x3A5⟩, ⟨0x1F56, 0x1F56, 1, 0x3A5⟩,
   ⟨0x1F80, 0x1F87, 1, 0x1F08⟩, ⟨0x1F88, 0x1F8F, 1, 0x1F08⟩, ⟨0x1F90, 0x1F97, 1, 0x1F28⟩,
   ⟨0x1F98, 0x1F9F, 1, 0x1F28⟩, ⟨0x1FA0, 0x1FA7, 1, 0x1F68⟩, ⟨0x1FA8, 0x1FAF, 1, 0x1F68⟩,
   ⟨0x1FB2, 0x1FB2, 1, 0x1FBA⟩, ⟨0x1FB3, 0x1FB3, 1, 0x391⟩, ⟨0x1FB4, 0x1FB4, 1, 0x386⟩,
   ⟨0x1FB6, 0x1FB6, 1, 0x391⟩, ⟨0x1FB7, 0x1FB7, 1, 0x391⟩, ⟨0x1FBC, 0x1FBC, 1, 0x391⟩,
   ⟨0x1FBE, 0x1FBE, 1, 0x399⟩, ⟨0x1FC2, 0x1FC2, 1, 0x1FCA⟩, ⟨0x1FC3, 0x1FC3, 1, 0x397⟩,
   ⟨0x1FC4, 0x1FC4, 1, 0x389⟩, ⟨0x1FC6, 0x1FC6, 1, 0x397⟩, ⟨0x1FC7, 0x1FC7, 1, 0x397⟩,
   ⟨0x1FCC, 0x1FCC, 1, 0x397⟩, ⟨0x1FD2, 0x1FD2, 1, 0x399⟩, ⟨0x1FD3, 0x1FD3, 1, 0x399⟩,
   ⟨0x1FD6, 0x1FD6, 1, 0x399⟩, ⟨0x1FD7, 0x1FD7, 1, 0x399⟩, ⟨0x1FE2, 0x1FE2, 1, 0x3A5⟩,
   ⟨0x1FE3, 0x1FE3, 1, 0x3A5⟩, ⟨0x1FE4, 0x1FE4, 1, 0x3A1⟩, ⟨0x1FE6, 0x1FE6, 1, 0x3A5⟩,
   ⟨0x1FE7, 0x1FE7, 1, 0x3A5⟩, ⟨0x1FF2, 0x1FF2, 1, 0x1FFA⟩, ⟨0x1FF3, 0x1FF3, 1, 0x3A9⟩,
   ⟨0x1FF4, 0x1FF4, 1, 0x38F⟩, ⟨0x1FF6, 0x1FF6, 1, 0x3A9⟩, ⟨0x1FF7, 0x1FF7, 1, 0x3A9⟩,
   ⟨0x1FFC, 0x1FFC, 1, 0x3A9⟩, ⟨0xFB00, 0xFB00, 1, 0x46⟩, ⟨0xFB01, 0xFB01, 1, 0x46⟩,
   ⟨0xFB02, 0xFB02, 1, 0x46⟩, ⟨0xFB03, 0xFB03, 1, 0x46⟩, ⟨0xFB04, 0xFB04, 1, 0x46⟩,
   ⟨0xFB05, 0xFB05, 1, 0x53⟩, ⟨0xFB06, 0xFB06, 1, 0x53⟩, ⟨0xFB13, 0xFB13, 1, 0x544⟩,
   ⟨0xFB14, 0xFB14, 1, 0x544⟩, ⟨0xFB15, 0xFB15, 1, 0x544⟩, ⟨0xFB16, 0xFB16, 1, 0x54E⟩,
   ⟨0xFB17, 0xFB17, 1, 0x544⟩]

/-- Upper case of one character as one character. -/
def upperCode (code : Nat) : Nat :=
  let upper := runImage irregularUpperRuns code
  if upper = code then (capitals code).headD code else upper

end Upkeep.Text
