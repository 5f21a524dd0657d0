import Flattening.Legacy.Numbering

/-! # Catalogue rows: block ids 135 to 151 -/

namespace Flattening.Legacy

def rowsF : List Row :=
  [⟨135, "minecraft:birch_stairs",
     [(0, "minecraft:birch_stairs",
        [("facing", "east"), ("half", "bottom"), ("shape", "straight"),
         ("waterlogged", "false")]),
      (1, "minecraft:birch_stairs",
        [("facing", "west"), ("half", "bottom"), ("shape", "straight"),
         ("waterlogged", "false")]),
      (2, "minecraft:birch_stairs",
        [("facing", "south"), ("half", "bottom"), ("shape", "straight"),
         ("waterlogged", "false")]),
      (3, "minecraft:birch_stairs",
        [("facing", "north"), ("half", "bottom"), ("shape", "straight"),
         ("waterlogged", "false")]),
      (4, "minecraft:birch_stairs",
        [("facing", "east"), ("half", "top"), ("shape", "straight"), ("waterlogged", "false")]),
      (5, "minecraft:birch_stairs",
        [("facing", "west"), ("half", "top"), ("shape", "straight"), ("waterlogged", "false")]),
      (6, "minecraft:birch_stairs",
        [("facing", "south"), ("half", "top"), ("shape", "straight"), ("waterlogged", "false")]),
      (7, "minecraft:birch_stairs",
        [("facing", "north"), ("half", "top"), ("shape", "straight"),
         ("waterlogged", "false")])]⟩,
   ⟨136, "minecraft:jungle_stairs",
     [(0, "minecraft:jungle_stairs",
        [("facing", "east"), ("half", "bottom"), ("shape", "straight"),
         ("waterlogged", "false")]),
      (1, "minecraft:jungle_stairs",
        [("facing", "west"), ("half", "bottom"), ("shape", "straight"),
         ("waterlogged", "false")]),
      (2, "minecraft:jungle_stairs",
        [("facing", "south"), ("half", "bottom"), ("shape", "straight"),
         ("waterlogged", "false")]),
      (3, "minecraft:jungle_stairs",
        [("facing", "north"), ("half", "bottom"), ("shape", "straight"),
         ("waterlogged", "false")]),
      (4, "minecraft:jungle_stairs",
        [("facing", "east"), ("half", "top"), ("shape", "straight"), ("waterlogged", "false")]),
      (5, "minecraft:jungle_stairs",
        [("facing", "west"), ("half", "top"), ("shape", "straight"), ("waterlogged", "false")]),
      (6, "minecraft:jungle_stairs",
        [("facing", "south"), ("half", "top"), ("shape", "straight"), ("waterlogged", "false")]),
      (7, "minecraft:jungle_stairs",
        [("facing", "north"), ("half", "top"), ("shape", "straight"),
         ("waterlogged", "false")])]⟩,
   ⟨137, "minecraft:command_block",
     [(0, "minecraft:command_block", [("conditional", "false"), ("facing", "down")]),
      (1, "minecraft:command_block", [("conditional", "false"), ("facing", "up")]),
      (2, "minecraft:command_block", [("conditional", "false"), ("facing", "north")]),
      (3, "minecraft:command_block", [("conditional", "false"), ("facing", "south")]),
      (4, "minecraft:command_block", [("conditional", "false"), ("facing", "west")]),
      (5, "minecraft:command_block", [("conditional", "false"), ("facing", "east")]),
      (8, "minecraft:command_block", [("conditional", "true"), ("facing", "down")]),
      (9, "minecraft:command_block", [("conditional", "true"), ("facing", "up")]),
      (10, "minecraft:command_block", [("conditional", "true"), ("facing", "north")]),
      (11, "minecraft:command_block", [("conditional", "true"), ("facing", "south")]),
      (12, "minecraft:command_block", [("conditional", "true"), ("facing", "west")]),
      (13, "minecraft:command_block", [("conditional", "true"), ("facing", "east")])]⟩,
   ⟨138, "minecraft:beacon", [(0, "minecraft:beacon", [])]⟩,
   ⟨139, "minecraft:cobblestone_wall",
     [(0, "minecraft:cobblestone_wall",
        [("east", "false"), ("north", "false"), ("south", "false"), ("up", "true"),
         ("waterlogged", "false"), ("west", "false")]),
      (1, "minecraft:mossy_cobblestone_wall",
        [("east", "false"), ("north", "false"), ("south", "false"), ("up", "true"),
         ("waterlogged", "false"), ("west", "false")])]⟩,
   ⟨140, "minecraft:flower_pot", [(0, "minecraft:flower_pot", [])]⟩,
   ⟨141, "minecraft:carrots",
     [(0, "minecraft:carrots", [("age", "0")]),
      (1, "minecraft:carrots", [("age", "1")]),
      (2, "minecraft:carrots", [("age", "2")]),
      (3, "minecraft:carrots", [("age", "3")]),
      (4, "minecraft:carrots", [("age", "4")]),
      (5, "minecraft:carrots", [("age", "5")]),
      (6, "minecraft:carrots", [("age", "6")]),
      (7, "minecraft:carrots", [("age", "7")])]⟩,
   ⟨142, "minecraft:potatoes",
     [(0, "minecraft:potatoes", [("age", "0")]),
      (1, "minecraft:potatoes", [("age", "1")]),
      (2, "minecraft:potatoes", [("age", "2")]),
      (3, "minecraft:potatoes", [("age", "3")]),
      (4, "minecraft:potatoes", [("age", "4")]),
      (5, "minecraft:potatoes", [("age", "5")]),
      (6, "minecraft:potatoes", [("age", "6")]),
      (7, "minecraft:potatoes", [("age", "7")])]⟩,
   ⟨143, "minecraft:wooden_button",
     [(0, "minecraft:oak_button",
        [("face", "ceiling"), ("facing", "north"), ("powered", "false")]),
      (1, "minecraft:oak_button", [("face", "wall"), ("facing", "east"), ("powered", "false")]),
      (2, "minecraft:oak_button", [("face", "wall"), ("facing", "west"), ("powered", "false")]),
      (3, "minecraft:oak_button", [("face", "wall"), ("facing", "south"), ("powered", "false")]),
      (4, "minecraft:oak_button", [("face", "wall"), ("facing", "north"), ("powered", "false")]),
      (5, "minecraft:oak_button",
        [("face", "floor"), ("facing", "north"), ("powered", "false")]),
      (8, "minecraft:oak_button",
        [("face", "ceiling"), ("facing", "north"), ("powered", "true")]),
      (9, "minecraft:oak_button", [("face", "wall"), ("facing", "east"), ("powered", "true")]),
      (10, "minecraft:oak_button", [("face", "wall"), ("facing", "west"), ("powered", "true")]),
      (11, "minecraft:oak_button", [("face", "wall"), ("facing", "south"), ("powered", "true")]),
      (12, "minecraft:oak_button", [("face", "wall"), ("facing", "north"), ("powered", "true")]),
      (13, "minecraft:oak_button",
        [("face", "floor"), ("facing", "north"), ("powered", "true")])]⟩,
   ⟨144, "minecraft:skull",
     [(0, "minecraft:skeleton_skull", [("rotation", "0")]),
      (1, "minecraft:skeleton_skull", [("rotation", "0")]),
      (2, "minecraft:skeleton_wall_skull", [("facing", "north")]),
      (3, "minecraft:skeleton_wall_skull", [("facing", "south")]),
      (4, "minecraft:skeleton_wall_skull", [("facing", "west")]),
      (5, "minecraft:skeleton_wall_skull", [("facing", "east")]),
      (8, "minecraft:skeleton_skull", [("rotation", "0")]),
      (9, "minecraft:skeleton_skull", [("rotation", "0")]),
      (10, "minecraft:skeleton_wall_skull", [("facing", "north")]),
      (11, "minecraft:skeleton_wall_skull", [("facing", "south")]),
      (12, "minecraft:skeleton_wall_skull", [("facing", "west")]),
      (13, "minecraft:skeleton_wall_skull", [("facing", "east")])]⟩,
   ⟨145, "minecraft:anvil",
     [(0, "minecraft:anvil", [("facing", "south")]),
      (1, "minecraft:anvil", [("facing", "west")]),
      (2, "minecraft:anvil", [("facing", "north")]),
      (3, "minecraft:anvil", [("facing", "east")]),
      (4, "minecraft:chipped_anvil", [("facing", "south")]),
      (5, "minecraft:chipped_anvil", [("facing", "west")]),
      (6, "minecraft:chipped_anvil", [("facing", "north")]),
      (7, "minecraft:chipped_anvil", [("facing", "east")]),
      (8, "minecraft:damaged_anvil", [("facing", "south")]),
      (9, "minecraft:damaged_anvil", [("facing", "west")]),
      (10, "minecraft:damaged_anvil", [("facing", "north")]),
      (11, "minecraft:damaged_anvil", [("facing", "east")])]⟩,
   ⟨146, "minecraft:trapped_chest",
     [(0, "minecraft:trapped_chest",
        [("facing", "north"), ("type", "single"), ("waterlogged", "false")]),
      (1, "minecraft:trapped_chest",
        [("facing", "north"), ("type", "single"), ("waterlogged", "false")]),
      (2, "minecraft:trapped_chest",
        [("facing", "north"), ("type", "single"), ("waterlogged", "false")]),
      (3, "minecraft:trapped_chest",
        [("facing", "south"), ("type", "single"), ("waterlogged", "false")]),
      (4, "minecraft:trapped_chest",
        [("facing", "west"), ("type", "single"), ("waterlogged", "false")]),
      (5, "minecraft:trapped_chest",
        [("facing", "east"), ("type", "single"), ("waterlogged", "false")])]⟩,
   ⟨147, "minecraft:light_weighted_pressure_plate",
     [(0, "minecraft:light_weighted_pressure_plate", [("power", "0")]),
      (1, "minecraft:light_weighted_pressure_plate", [("power", "1")]),
      (2, "minecraft:light_weighted_pressure_plate", [("power", "2")]),
      (3, "minecraft:light_weighted_pressure_plate", [("power", "3")]),
      (4, "minecraft:light_weighted_pressure_plate", [("power", "4")]),
      (5, "minecraft:light_weighted_pressure_plate", [("power", "5")]),
      (6, "minecraft:light_weighted_pressure_plate", [("power", "6")]),
      (7, "minecraft:light_weighted_pressure_plate", [("power", "7")]),
      (8, "minecraft:light_weighted_pressure_plate", [("power", "8")]),
      (9, "minecraft:light_weighted_pressure_plate", [("power", "9")]),
      (10, "minecraft:light_weighted_pressure_plate", [("power", "10")]),
      (11, "minecraft:light_weighted_pressure_plate", [("power", "11")]),
      (12, "minecraft:light_weighted_pressure_plate", [("power", "12")]),
      (13, "minecraft:light_weighted_pressure_plate", [("power", "13")]),
      (14, "minecraft:light_weighted_pressure_plate", [("power", "14")]),
      (15, "minecraft:light_weighted_pressure_plate", [("power", "15")])]⟩,
   ⟨148, "minecraft:heavy_weighted_pressure_plate",
     [(0, "minecraft:heavy_weighted_pressure_plate", [("power", "0")]),
      (1, "minecraft:heavy_weighted_pressure_plate", [("power", "1")]),
      (2, "minecraft:heavy_weighted_pressure_plate", [("power", "2")]),
      (3, "minecraft:heavy_weighted_pressure_plate", [("power", "3")]),
      (4, "minecraft:heavy_weighted_pressure_plate", [("power", "4")]),
      (5, "minecraft:heavy_weighted_pressure_plate", [("power", "5")]),
      (6, "minecraft:heavy_weighted_pressure_plate", [("power", "6")]),
      (7, "minecraft:heavy_weighted_pressure_plate", [("power", "7")]),
      (8, "minecraft:heavy_weighted_pressure_plate", [("power", "8")]),
      (9, "minecraft:heavy_weighted_pressure_plate", [("power", "9")]),
      (10, "minecraft:heavy_weighted_pressure_plate", [("power", "10")]),
      (11, "minecraft:heavy_weighted_pressure_plate", [("power", "11")]),
      (12, "minecraft:heavy_weighted_pressure_plate", [("power", "12")]),
      (13, "minecraft:heavy_weighted_pressure_plate", [("power", "13")]),
      (14, "minecraft:heavy_weighted_pressure_plate", [("power", "14")]),
      (15, "minecraft:heavy_weighted_pressure_plate", [("power", "15")])]⟩,
   ⟨149, "minecraft:unpowered_comparator",
     [(0, "minecraft:comparator",
        [("facing", "south"), ("mode", "compare"), ("powered", "false")]),
      (1, "minecraft:comparator",
        [("facing", "west"), ("mode", "compare"), ("powered", "false")]),
      (2, "minecraft:comparator",
        [("facing", "north"), ("mode", "compare"), ("powered", "false")]),
      (3, "minecraft:comparator",
        [("facing", "east"), ("mode", "compare"), ("powered", "false")]),
      (4, "minecraft:comparator",
        [("facing", "south"), ("mode", "subtract"), ("powered", "false")]),
      (5, "minecraft:comparator",
        [("facing", "west"), ("mode", "subtract"), ("powered", "false")]),
      (6, "minecraft:comparator",
        [("facing", "north"), ("mode", "subtract"), ("powered", "false")]),
      (7, "minecraft:comparator",
        [("facing", "east"), ("mode", "subtract"), ("powered", "false")]),
      (8, "minecraft:comparator",
        [("facing", "south"), ("mode", "compare"), ("powered", "true")]),
      (9, "minecraft:comparator",
        [("facing", "west"), ("mode", "compare"), ("powered", "true")]),
      (10, "minecraft:comparator",
        [("facing", "north"), ("mode", "compare"), ("powered", "true")]),
      (11, "minecraft:comparator",
        [("facing", "east"), ("mode", "compare"), ("powered", "true")]),
      (12, "minecraft:comparator",
        [("facing", "south"), ("mode", "subtract"), ("powered", "true")]),
      (13, "minecraft:comparator",
        [("facing", "west"), ("mode", "subtract"), ("powered", "true")]),
      (14, "minecraft:comparator",
        [("facing", "north"), ("mode", "subtract"), ("powered", "true")]),
      (15, "minecraft:comparator",
        [("facing", "east"), ("mode", "subtract"), ("powered", "true")])]⟩,
   ⟨150, "minecraft:powered_comparator",
     [(0, "minecraft:comparator",
        [("facing", "south"), ("mode", "compare"), ("powered", "true")]),
      (1, "minecraft:comparator",
        [("facing", "west"), ("mode", "compare"), ("powered", "true")]),
      (2, "minecraft:comparator",
        [("facing", "north"), ("mode", "compare"), ("powered", "true")]),
      (3, "minecraft:comparator",
        [("facing", "east"), ("mode", "compare"), ("powered", "true")]),
      (4, "minecraft:comparator",
        [("facing", "south"), ("mode", "subtract"), ("powered", "true")]),
      (5, "minecraft:comparator",
        [("facing", "west"), ("mode", "subtract"), ("powered", "true")]),
      (6, "minecraft:comparator",
        [("facing", "north"), ("mode", "subtract"), ("powered", "true")]),
      (7, "minecraft:comparator",
        [("facing", "east"), ("mode", "subtract"), ("powered", "true")]),
      (8, "minecraft:comparator",
        [("facing", "south"), ("mode", "compare"), ("powered", "true")]),
      (9, "minecraft:comparator",
        [("facing", "west"), ("mode", "compare"), ("powered", "true")]),
      (10, "minecraft:comparator",
        [("facing", "north"), ("mode", "compare"), ("powered", "true")]),
      (11, "minecraft:comparator",
        [("facing", "east"), ("mode", "compare"), ("powered", "true")]),
      (12, "minecraft:comparator",
        [("facing", "south"), ("mode", "subtract"), ("powered", "true")]),
      (13, "minecraft:comparator",
        [("facing", "west"), ("mode", "subtract"), ("powered", "true")]),
      (14, "minecraft:comparator",
        [("facing", "north"), ("mode", "subtract"), ("powered", "true")]),
      (15, "minecraft:comparator",
        [("facing", "east"), ("mode", "subtract"), ("powered", "true")])]⟩,
   ⟨151, "minecraft:daylight_detector",
     [(0, "minecraft:daylight_detector", [("inverted", "false"), ("power", "0")]),
      (1, "minecraft:daylight_detector", [("inverted", "false"), ("power", "1")]),
      (2, "minecraft:daylight_detector", [("inverted", "false"), ("power", "2")]),
      (3, "minecraft:daylight_detector", [("inverted", "false"), ("power", "3")]),
      (4, "minecraft:daylight_detector", [("inverted", "false"), ("power", "4")]),
      (5, "minecraft:daylight_detector", [("inverted", "false"), ("power", "5")]),
      (6, "minecraft:daylight_detector", [("inverted", "false"), ("power", "6")]),
      (7, "minecraft:daylight_detector", [("inverted", "false"), ("power", "7")]),
      (8, "minecraft:daylight_detector", [("inverted", "false"), ("power", "8")]),
      (9, "minecraft:daylight_detector", [("inverted", "false"), ("power", "9")]),
      (10, "minecraft:daylight_detector", [("inverted", "false"), ("power", "10")]),
      (11, "minecraft:daylight_detector", [("inverted", "false"), ("power", "11")]),
      (12, "minecraft:daylight_detector", [("inverted", "false"), ("power", "12")]),
      (13, "minecraft:daylight_detector", [("inverted", "false"), ("power", "13")]),
      (14, "minecraft:daylight_detector", [("inverted", "false"), ("power", "14")]),
      (15, "minecraft:daylight_detector", [("inverted", "false"), ("power", "15")])]⟩]

end Flattening.Legacy
