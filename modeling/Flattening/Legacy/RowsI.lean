import Flattening.Legacy.Numbering

/-! # Catalogue rows: block ids 201 to 236 -/

namespace Flattening.Legacy

def rowsI : List Row :=
  [⟨201, "minecraft:purpur_block", [(0, "minecraft:purpur_block", [])]⟩,
   ⟨202, "minecraft:purpur_pillar",
     [(0, "minecraft:purpur_pillar", [("axis", "y")]),
      (4, "minecraft:purpur_pillar", [("axis", "x")]),
      (8, "minecraft:purpur_pillar", [("axis", "z")])]⟩,
   ⟨203, "minecraft:purpur_stairs",
     [(0, "minecraft:purpur_stairs",
        [("facing", "east"), ("half", "bottom"), ("shape", "straight"),
         ("waterlogged", "false")]),
      (1, "minecraft:purpur_stairs",
        [("facing", "west"), ("half", "bottom"), ("shape", "straight"),
         ("waterlogged", "false")]),
      (2, "minecraft:purpur_stairs",
        [("facing", "south"), ("half", "bottom"), ("shape", "straight"),
         ("waterlogged", "false")]),
      (3, "minecraft:purpur_stairs",
        [("facing", "north"), ("half", "bottom"), ("shape", "straight"),
         ("waterlogged", "false")]),
      (4, "minecraft:purpur_stairs",
        [("facing", "east"), ("half", "top"), ("shape", "straight"), ("waterlogged", "false")]),
      (5, "minecraft:purpur_stairs",
        [("facing", "west"), ("half", "top"), ("shape", "straight"), ("waterlogged", "false")]),
      (6, "minecraft:purpur_stairs",
        [("facing", "south"), ("half", "top"), ("shape", "straight"), ("waterlogged", "false")]),
      (7, "minecraft:purpur_stairs",
        [("facing", "north"), ("half", "top"), ("shape", "straight"),
         ("waterlogged", "false")])]⟩,
   ⟨204, "minecraft:purpur_double_slab",
     [(0, "minecraft:purpur_slab", [("type", "double"), ("waterlogged", "false")])]⟩,
   ⟨205, "minecraft:purpur_slab",
     [(0, "minecraft:purpur_slab", [("type", "bottom"), ("waterlogged", "false")]),
      (8, "minecraft:purpur_slab", [("type", "top"), ("waterlogged", "false")])]⟩,
   ⟨206, "minecraft:end_bricks", [(0, "minecraft:end_stone_bricks", [])]⟩,
   ⟨207, "minecraft:beetroots",
     [(0, "minecraft:beetroots", [("age", "0")]),
      (1, "minecraft:beetroots", [("age", "1")]),
      (2, "minecraft:beetroots", [("age", "2")]),
      (3, "minecraft:beetroots", [("age", "3")])]⟩,
   ⟨208, "minecraft:grass_path", [(0, "minecraft:grass_path", [])]⟩,
   ⟨209, "minecraft:end_gateway", [(0, "minecraft:end_gateway", [])]⟩,
   ⟨210, "minecraft:repeating_command_block",
     [(0, "minecraft:repeating_command_block", [("conditional", "false"), ("facing", "down")]),
      (1, "minecraft:repeating_command_block", [("conditional", "false"), ("facing", "up")]),
      (2, "minecraft:repeating_command_block", [("conditional", "false"), ("facing", "north")]),
      (3, "minecraft:repeating_command_block", [("conditional", "false"), ("facing", "south")]),
      (4, "minecraft:repeating_command_block", [("conditional", "false"), ("facing", "west")]),
      (5, "minecraft:repeating_command_block", [("conditional", "false"), ("facing", "east")]),
      (8, "minecraft:repeating_command_block", [("conditional", "true"), ("facing", "down")]),
      (9, "minecraft:repeating_command_block", [("conditional", "true"), ("facing", "up")]),
      (10, "minecraft:repeating_command_block", [("conditional", "true"), ("facing", "north")]),
      (11, "minecraft:repeating_command_block", [("conditional", "true"), ("facing", "south")]),
      (12, "minecraft:repeating_command_block", [("conditional", "true"), ("facing", "west")]),
      (13, "minecraft:repeating_command_block", [("conditional", "true"), ("facing", "east")])]⟩,
   ⟨211, "minecraft:chain_command_block",
     [(0, "minecraft:chain_command_block", [("conditional", "false"), ("facing", "down")]),
      (1, "minecraft:chain_command_block", [("conditional", "false"), ("facing", "up")]),
      (2, "minecraft:chain_command_block", [("conditional", "false"), ("facing", "north")]),
      (3, "minecraft:chain_command_block", [("conditional", "false"), ("facing", "south")]),
      (4, "minecraft:chain_command_block", [("conditional", "false"), ("facing", "west")]),
      (5, "minecraft:chain_command_block", [("conditional", "false"), ("facing", "east")]),
      (8, "minecraft:chain_command_block", [("conditional", "true"), ("facing", "down")]),
      (9, "minecraft:chain_command_block", [("conditional", "true"), ("facing", "up")]),
      (10, "minecraft:chain_command_block", [("conditional", "true"), ("facing", "north")]),
      (11, "minecraft:chain_command_block", [("conditional", "true"), ("facing", "south")]),
      (12, "minecraft:chain_command_block", [("conditional", "true"), ("facing", "west")]),
      (13, "minecraft:chain_command_block", [("conditional", "true"), ("facing", "east")])]⟩,
   ⟨212, "minecraft:frosted_ice",
     [(0, "minecraft:frosted_ice", [("age", "0")]),
      (1, "minecraft:frosted_ice", [("age", "1")]),
      (2, "minecraft:frosted_ice", [("age", "2")]),
      (3, "minecraft:frosted_ice", [("age", "3")])]⟩,
   ⟨213, "minecraft:magma", [(0, "minecraft:magma_block", [])]⟩,
   ⟨214, "minecraft:nether_wart_block", [(0, "minecraft:nether_wart_block", [])]⟩,
   ⟨215, "minecraft:red_nether_brick", [(0, "minecraft:red_nether_bricks", [])]⟩,
   ⟨216, "minecraft:bone_block",
     [(0, "minecraft:bone_block", [("axis", "y")]),
      (4, "minecraft:bone_block", [("axis", "x")]),
      (8, "minecraft:bone_block", [("axis", "z")])]⟩,
   ⟨217, "minecraft:structure_void", [(0, "minecraft:structure_void", [])]⟩,
   ⟨218, "minecraft:observer",
     [(0, "minecraft:observer", [("facing", "down"), ("powered", "false")]),
      (1, "minecraft:observer", [("facing", "up"), ("powered", "false")]),
      (2, "minecraft:observer", [("facing", "north"), ("powered", "false")]),
      (3, "minecraft:observer", [("facing", "south"), ("powered", "false")]),
      (4, "minecraft:observer", [("facing", "west"), ("powered", "false")]),
      (5, "minecraft:observer", [("facing", "east"), ("powered", "false")]),
      (8, "minecraft:observer", [("facing", "down"), ("powered", "true")]),
      (9, "minecraft:observer", [("facing", "up"), ("powered", "true")]),
      (10, "minecraft:observer", [("facing", "north"), ("powered", "true")]),
      (11, "minecraft:observer", [("facing", "south"), ("powered", "true")]),
      (12, "minecraft:observer", [("facing", "west"), ("powered", "true")]),
      (13, "minecraft:observer", [("facing", "east"), ("powered", "true")])]⟩,
   ⟨219, "minecraft:white_shulker_box",
     [(0, "minecraft:white_shulker_box", [("facing", "down")]),
      (1, "minecraft:white_shulker_box", [("facing", "up")]),
      (2, "minecraft:white_shulker_box", [("facing", "north")]),
      (3, "minecraft:white_shulker_box", [("facing", "south")]),
      (4, "minecraft:white_shulker_box", [("facing", "west")]),
      (5, "minecraft:white_shulker_box", [("facing", "east")])]⟩,
   ⟨220, "minecraft:orange_shulker_box",
     [(0, "minecraft:orange_shulker_box", [("facing", "down")]),
      (1, "minecraft:orange_shulker_box", [("facing", "up")]),
      (2, "minecraft:orange_shulker_box", [("facing", "north")]),
      (3, "minecraft:orange_shulker_box", [("facing", "south")]),
      (4, "minecraft:orange_shulker_box", [("facing", "west")]),
      (5, "minecraft:orange_shulker_box", [("facing", "east")])]⟩,
   ⟨221, "minecraft:magenta_shulker_box",
     [(0, "minecraft:magenta_shulker_box", [("facing", "down")]),
      (1, "minecraft:magenta_shulker_box", [("facing", "up")]),
      (2, "minecraft:magenta_shulker_box", [("facing", "north")]),
      (3, "minecraft:magenta_shulker_box", [("facing", "south")]),
      (4, "minecraft:magenta_shulker_box", [("facing", "west")]),
      (5, "minecraft:magenta_shulker_box", [("facing", "east")])]⟩,
   ⟨222, "minecraft:light_blue_shulker_box",
     [(0, "minecraft:light_blue_shulker_box", [("facing", "down")]),
      (1, "minecraft:light_blue_shulker_box", [("facing", "up")]),
      (2, "minecraft:light_blue_shulker_box", [("facing", "north")]),
      (3, "minecraft:light_blue_shulker_box", [("facing", "south")]),
      (4, "minecraft:light_blue_shulker_box", [("facing", "west")]),
      (5, "minecraft:light_blue_shulker_box", [("facing", "east")])]⟩,
   ⟨223, "minecraft:yellow_shulker_box",
     [(0, "minecraft:yellow_shulker_box", [("facing", "down")]),
      (1, "minecraft:yellow_shulker_box", [("facing", "up")]),
      (2, "minecraft:yellow_shulker_box", [("facing", "north")]),
      (3, "minecraft:yellow_shulker_box", [("facing", "south")]),
      (4, "minecraft:yellow_shulker_box", [("facing", "west")]),
      (5, "minecraft:yellow_shulker_box", [("facing", "east")])]⟩,
   ⟨224, "minecraft:lime_shulker_box",
     [(0, "minecraft:lime_shulker_box", [("facing", "down")]),
      (1, "minecraft:lime_shulker_box", [("facing", "up")]),
      (2, "minecraft:lime_shulker_box", [("facing", "north")]),
      (3, "minecraft:lime_shulker_box", [("facing", "south")]),
      (4, "minecraft:lime_shulker_box", [("facing", "west")]),
      (5, "minecraft:lime_shulker_box", [("facing", "east")])]⟩,
   ⟨225, "minecraft:pink_shulker_box",
     [(0, "minecraft:pink_shulker_box", [("facing", "down")]),
      (1, "minecraft:pink_shulker_box", [("facing", "up")]),
      (2, "minecraft:pink_shulker_box", [("facing", "north")]),
      (3, "minecraft:pink_shulker_box", [("facing", "south")]),
      (4, "minecraft:pink_shulker_box", [("facing", "west")]),
      (5, "minecraft:pink_shulker_box", [("facing", "east")])]⟩,
   ⟨226, "minecraft:gray_shulker_box",
     [(0, "minecraft:gray_shulker_box", [("facing", "down")]),
      (1, "minecraft:gray_shulker_box", [("facing", "up")]),
      (2, "minecraft:gray_shulker_box", [("facing", "north")]),
      (3, "minecraft:gray_shulker_box", [("facing", "south")]),
      (4, "minecraft:gray_shulker_box", [("facing", "west")]),
      (5, "minecraft:gray_shulker_box", [("facing", "east")])]⟩,
   ⟨227, "minecraft:light_gray_shulker_box",
     [(0, "minecraft:light_gray_shulker_box", [("facing", "down")]),
      (1, "minecraft:light_gray_shulker_box", [("facing", "up")]),
      (2, "minecraft:light_gray_shulker_box", [("facing", "north")]),
      (3, "minecraft:light_gray_shulker_box", [("facing", "south")]),
      (4, "minecraft:light_gray_shulker_box", [("facing", "west")]),
      (5, "minecraft:light_gray_shulker_box", [("facing", "east")])]⟩,
   ⟨228, "minecraft:cyan_shulker_box",
     [(0, "minecraft:cyan_shulker_box", [("facing", "down")]),
      (1, "minecraft:cyan_shulker_box", [("facing", "up")]),
      (2, "minecraft:cyan_shulker_box", [("facing", "north")]),
      (3, "minecraft:cyan_shulker_box", [("facing", "south")]),
      (4, "minecraft:cyan_shulker_box", [("facing", "west")]),
      (5, "minecraft:cyan_shulker_box", [("facing", "east")])]⟩,
   ⟨229, "minecraft:purple_shulker_box",
     [(0, "minecraft:purple_shulker_box", [("facing", "down")]),
      (1, "minecraft:purple_shulker_box", [("facing", "up")]),
      (2, "minecraft:purple_shulker_box", [("facing", "north")]),
      (3, "minecraft:purple_shulker_box", [("facing", "south")]),
      (4, "minecraft:purple_shulker_box", [("facing", "west")]),
      (5, "minecraft:purple_shulker_box", [("facing", "east")])]⟩,
   ⟨230, "minecraft:blue_shulker_box",
     [(0, "minecraft:blue_shulker_box", [("facing", "down")]),
      (1, "minecraft:blue_shulker_box", [("facing", "up")]),
      (2, "minecraft:blue_shulker_box", [("facing", "north")]),
      (3, "minecraft:blue_shulker_box", [("facing", "south")]),
      (4, "minecraft:blue_shulker_box", [("facing", "west")]),
      (5, "minecraft:blue_shulker_box", [("facing", "east")])]⟩,
   ⟨231, "minecraft:brown_shulker_box",
     [(0, "minecraft:brown_shulker_box", [("facing", "down")]),
      (1, "minecraft:brown_shulker_box", [("facing", "up")]),
      (2, "minecraft:brown_shulker_box", [("facing", "north")]),
      (3, "minecraft:brown_shulker_box", [("facing", "south")]),
      (4, "minecraft:brown_shulker_box", [("facing", "west")]),
      (5, "minecraft:brown_shulker_box", [("facing", "east")])]⟩,
   ⟨232, "minecraft:green_shulker_box",
     [(0, "minecraft:green_shulker_box", [("facing", "down")]),
      (1, "minecraft:green_shulker_box", [("facing", "up")]),
      (2, "minecraft:green_shulker_box", [("facing", "north")]),
      (3, "minecraft:green_shulker_box", [("facing", "south")]),
      (4, "minecraft:green_shulker_box", [("facing", "west")]),
      (5, "minecraft:green_shulker_box", [("facing", "east")])]⟩,
   ⟨233, "minecraft:red_shulker_box",
     [(0, "minecraft:red_shulker_box", [("facing", "down")]),
      (1, "minecraft:red_shulker_box", [("facing", "up")]),
      (2, "minecraft:red_shulker_box", [("facing", "north")]),
      (3, "minecraft:red_shulker_box", [("facing", "south")]),
      (4, "minecraft:red_shulker_box", [("facing", "west")]),
      (5, "minecraft:red_shulker_box", [("facing", "east")])]⟩,
   ⟨234, "minecraft:black_shulker_box",
     [(0, "minecraft:black_shulker_box", [("facing", "down")]),
      (1, "minecraft:black_shulker_box", [("facing", "up")]),
      (2, "minecraft:black_shulker_box", [("facing", "north")]),
      (3, "minecraft:black_shulker_box", [("facing", "south")]),
      (4, "minecraft:black_shulker_box", [("facing", "west")]),
      (5, "minecraft:black_shulker_box", [("facing", "east")])]⟩,
   ⟨235, "minecraft:white_glazed_terracotta",
     [(0, "minecraft:white_glazed_terracotta", [("facing", "south")]),
      (1, "minecraft:white_glazed_terracotta", [("facing", "west")]),
      (2, "minecraft:white_glazed_terracotta", [("facing", "north")]),
      (3, "minecraft:white_glazed_terracotta", [("facing", "east")])]⟩,
   ⟨236, "minecraft:orange_glazed_terracotta",
     [(0, "minecraft:orange_glazed_terracotta", [("facing", "south")]),
      (1, "minecraft:orange_glazed_terracotta", [("facing", "west")]),
      (2, "minecraft:orange_glazed_terracotta", [("facing", "north")]),
      (3, "minecraft:orange_glazed_terracotta", [("facing", "east")])]⟩]

end Flattening.Legacy
