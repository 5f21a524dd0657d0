import Flattening.Legacy.Numbering

/-! # Catalogue rows: block ids 237 to 255 -/

namespace Flattening.Legacy

def rowsJ : List Row :=
  [⟨237, "minecraft:magenta_glazed_terracotta",
     [(0, "minecraft:magenta_glazed_terracotta", [("facing", "south")]),
      (1, "minecraft:magenta_glazed_terracotta", [("facing", "west")]),
      (2, "minecraft:magenta_glazed_terracotta", [("facing", "north")]),
      (3, "minecraft:magenta_glazed_terracotta", [("facing", "east")])]⟩,
   ⟨238, "minecraft:light_blue_glazed_terracotta",
     [(0, "minecraft:light_blue_glazed_terracotta", [("facing", "south")]),
      (1, "minecraft:light_blue_glazed_terracotta", [("facing", "west")]),
      (2, "minecraft:light_blue_glazed_terracotta", [("facing", "north")]),
      (3, "minecraft:light_blue_glazed_terracotta", [("facing", "east")])]⟩,
   ⟨239, "minecraft:yellow_glazed_terracotta",
     [(0, "minecraft:yellow_glazed_terracotta", [("facing", "south")]),
      (1, "minecraft:yellow_glazed_terracotta", [("facing", "west")]),
      (2, "minecraft:yellow_glazed_terracotta", [("facing", "north")]),
      (3, "minecraft:yellow_glazed_terracotta", [("facing", "east")])]⟩,
   ⟨240, "minecraft:lime_glazed_terracotta",
     [(0, "minecraft:lime_glazed_terracotta", [("facing", "south")]),
      (1, "minecraft:lime_glazed_terracotta", [("facing", "west")]),
      (2, "minecraft:lime_glazed_terracotta", [("facing", "north")]),
      (3, "minecraft:lime_glazed_terracotta", [("facing", "east")])]⟩,
   ⟨241, "minecraft:pink_glazed_terracotta",
     [(0, "minecraft:pink_glazed_terracotta", [("facing", "south")]),
      (1, "minecraft:pink_glazed_terracotta", [("facing", "west")]),
      (2, "minecraft:pink_glazed_terracotta", [("facing", "north")]),
      (3, "minecraft:pink_glazed_terracotta", [("facing", "east")])]⟩,
   ⟨242, "minecraft:gray_glazed_terracotta",
     [(0, "minecraft:gray_glazed_terracotta", [("facing", "south")]),
      (1, "minecraft:gray_glazed_terracotta", [("facing", "west")]),
      (2, "minecraft:gray_glazed_terracotta", [("facing", "north")]),
      (3, "minecraft:gray_glazed_terracotta", [("facing", "east")])]⟩,
   ⟨243, "minecraft:silver_glazed_terracotta",
     [(0, "minecraft:light_gray_glazed_terracotta", [("facing", "south")]),
      (1, "minecraft:light_gray_glazed_terracotta", [("facing", "west")]),
      (2, "minecraft:light_gray_glazed_terracotta", [("facing", "north")]),
      (3, "minecraft:light_gray_glazed_terracotta", [("facing", "east")])]⟩,
   ⟨244, "minecraft:cyan_glazed_terracotta",
     [(0, "minecraft:cyan_glazed_terracotta", [("facing", "south")]),
      (1, "minecraft:cyan_glazed_terracotta", [("facing", "west")]),
      (2, "minecraft:cyan_glazed_terracotta", [("facing", "north")]),
      (3, "minecraft:cyan_glazed_terracotta", [("facing", "east")])]⟩,
   ⟨245, "minecraft:purple_glazed_terracotta",
     [(0, "minecraft:purple_glazed_terracotta", [("facing", "south")]),
      (1, "minecraft:purple_glazed_terracotta", [("facing", "west")]),
      (2, "minecraft:purple_glazed_terracotta", [("facing", "north")]),
      (3, "minecraft:purple_glazed_terracotta", [("facing", "east")])]⟩,
   ⟨246, "minecraft:blue_glazed_terracotta",
     [(0, "minecraft:blue_glazed_terracotta", [("facing", "south")]),
      (1, "minecraft:blue_glazed_terracotta", [("facing", "west")]),
      (2, "minecraft:blue_glazed_terracotta", [("facing", "north")]),
      (3, "minecraft:blue_glazed_terracotta", [("facing", "east")])]⟩,
   ⟨247, "minecraft:brown_glazed_terracotta",
     [(0, "minecraft:brown_glazed_terracotta", [("facing", "south")]),
      (1, "minecraft:brown_glazed_terracotta", [("facing", "west")]),
      (2, "minecraft:brown_glazed_terracotta", [("facing", "north")]),
      (3, "minecraft:brown_glazed_terracotta", [("facing", "east")])]⟩,
   ⟨248, "minecraft:green_glazed_terracotta",
     [(0, "minecraft:green_glazed_terracotta", [("facing", "south")]),
      (1, "minecraft:green_glazed_terracotta", [("facing", "west")]),
      (2, "minecraft:green_glazed_terracotta", [("facing", "north")]),
      (3, "minecraft:green_glazed_terracotta", [("facing", "east")])]⟩,
   ⟨249, "minecraft:red_glazed_terracotta",
     [(0, "minecraft:red_glazed_terracotta", [("facing", "south")]),
      (1, "minecraft:red_glazed_terracotta", [("facing", "west")]),
      (2, "minecraft:red_glazed_terracotta", [("facing", "north")]),
      (3, "minecraft:red_glazed_terracotta", [("facing", "east")])]⟩,
   ⟨250, "minecraft:black_glazed_terracotta",
     [(0, "minecraft:black_glazed_terracotta", [("facing", "south")]),
      (1, "minecraft:black_glazed_terracotta", [("facing", "west")]),
      (2, "minecraft:black_glazed_terracotta", [("facing", "north")]),
      (3, "minecraft:black_glazed_terracotta", [("facing", "east")])]⟩,
   ⟨251, "minecraft:concrete",
     [(0, "minecraft:white_concrete", []),
      (1, "minecraft:orange_concrete", []),
      (2, "minecraft:magenta_concrete", []),
      (3, "minecraft:light_blue_concrete", []),
      (4, "minecraft:yellow_concrete", []),
      (5, "minecraft:lime_concrete", []),
      (6, "minecraft:pink_concrete", []),
      (7, "minecraft:gray_concrete", []),
      (8, "minecraft:light_gray_concrete", []),
      (9, "minecraft:cyan_concrete", []),
      (10, "minecraft:purple_concrete", []),
      (11, "minecraft:blue_concrete", []),
      (12, "minecraft:brown_concrete", []),
      (13, "minecraft:green_concrete", []),
      (14, "minecraft:red_concrete", []),
      (15, "minecraft:black_concrete", [])]⟩,
   ⟨252, "minecraft:concrete_powder",
     [(0, "minecraft:white_concrete_powder", []),
      (1, "minecraft:orange_concrete_powder", []),
      (2, "minecraft:magenta_concrete_powder", []),
      (3, "minecraft:light_blue_concrete_powder", []),
      (4, "minecraft:yellow_concrete_powder", []),
      (5, "minecraft:lime_concrete_powder", []),
      (6, "minecraft:pink_concrete_powder", []),
      (7, "minecraft:gray_concrete_powder", []),
      (8, "minecraft:light_gray_concrete_powder", []),
      (9, "minecraft:cyan_concrete_powder", []),
      (10, "minecraft:purple_concrete_powder", []),
      (11, "minecraft:blue_concrete_powder", []),
      (12, "minecraft:brown_concrete_powder", []),
      (13, "minecraft:green_concrete_powder", []),
      (14, "minecraft:red_concrete_powder", []),
      (15, "minecraft:black_concrete_powder", [])]⟩,
   ⟨255, "minecraft:structure_block",
     [(0, "minecraft:structure_block", [("mode", "save")]),
      (1, "minecraft:structure_block", [("mode", "load")]),
      (2, "minecraft:structure_block", [("mode", "corner")]),
      (3, "minecraft:structure_block", [("mode", "data")])]⟩]

end Flattening.Legacy
