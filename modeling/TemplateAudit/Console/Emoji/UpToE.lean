namespace TemplateAudit

/-- Emoji whose names start with anything but one of the letters from `a` to `z`. -/
def emojiDigits : List (String × List Nat) :=
  [("+1", [0x1F44D]), ("-1", [0x1F44E]), ("100", [0x1F4AF]), ("1234", [0x1F522]),
   ("1st_place_medal", [0x1F947]), ("2nd_place_medal", [0x1F948]), ("3rd_place_medal", [0x1F949]),
   ("8ball", [0x1F3B1]), ("__1", [0x1F44E]), ("åland_islands", [0x1F1E6, 0x1F1FD])]

/-- Emoji whose names start with `a`. -/
def emojiA : List (String × List Nat) :=
  [("a", [0x1F170]), ("a_button_(blood_type)", [0x1F170]), ("ab", [0x1F18E]),
   ("ab_button_(blood_type)", [0x1F18E]), ("abacus", [0x1F9EE]), ("abc", [0x1F524]),
   ("abcd", [0x1F521]), ("accept", [0x1F251]), ("adhesive_bandage", [0x1FA79]),
   ("admission_tickets", [0x1F39F]), ("adult", [0x1F9D1]),
   ("adult_dark_skin_tone", [0x1F9D1, 0x1F3FF]), ("adult_light_skin_tone", [0x1F9D1, 0x1F3FB]),
   ("adult_medium-dark_skin_tone", [0x1F9D1, 0x1F3FE]),
   ("adult_medium-light_skin_tone", [0x1F9D1, 0x1F3FC]),
   ("adult_medium_skin_tone", [0x1F9D1, 0x1F3FD]), ("aerial_tramway", [0x1F6A1]),
   ("afghanistan", [0x1F1E6, 0x1F1EB]), ("airplane", [0x2708]), ("airplane_arrival", [0x1F6EC]),
   ("airplane_arriving", [0x1F6EC]), ("airplane_departure", [0x1F6EB]), ("alarm_clock", [0x23F0]),
   ("albania", [0x1F1E6, 0x1F1F1]), ("alembic", [0x2697]), ("algeria", [0x1F1E9, 0x1F1FF]),
   ("alien", [0x1F47D]), ("alien_monster", [0x1F47E]), ("ambulance", [0x1F691]),
   ("american_football", [0x1F3C8]), ("american_samoa", [0x1F1E6, 0x1F1F8]), ("amphora", [0x1F3FA]),
   ("anchor", [0x2693]), ("andorra", [0x1F1E6, 0x1F1E9]), ("angel", [0x1F47C]),
   ("anger", [0x1F4A2]), ("anger_symbol", [0x1F4A2]), ("angola", [0x1F1E6, 0x1F1F4]),
   ("angry", [0x1F620]), ("angry_face", [0x1F620]), ("angry_face_with_horns", [0x1F47F]),
   ("anguilla", [0x1F1E6, 0x1F1EE]), ("anguished", [0x1F627]), ("anguished_face", [0x1F627]),
   ("ant", [0x1F41C]), ("antarctica", [0x1F1E6, 0x1F1F6]), ("antenna_bars", [0x1F4F6]),
   ("antigua_&_barbuda", [0x1F1E6, 0x1F1EC]), ("anxious_face_with_sweat", [0x1F630]),
   ("apple", [0x1F34E]), ("aquarius", [0x2652]), ("argentina", [0x1F1E6, 0x1F1F7]),
   ("aries", [0x2648]), ("armenia", [0x1F1E6, 0x1F1F2]), ("arrow_backward", [0x25C0]),
   ("arrow_double_down", [0x23EC]), ("arrow_double_up", [0x23EB]), ("arrow_down", [0x2B07]),
   ("arrow_down_small", [0x1F53D]), ("arrow_forward", [0x25B6]), ("arrow_heading_down", [0x2935]),
   ("arrow_heading_up", [0x2934]), ("arrow_left", [0x2B05]), ("arrow_lower_left", [0x2199]),
   ("arrow_lower_right", [0x2198]), ("arrow_right", [0x27A1]), ("arrow_right_hook", [0x21AA]),
   ("arrow_up", [0x2B06]), ("arrow_up_down", [0x2195]), ("arrow_up_small", [0x1F53C]),
   ("arrow_upper_left", [0x2196]), ("arrow_upper_right", [0x2197]), ("arrows_clockwise", [0x1F503]),
   ("arrows_counterclockwise", [0x1F504]), ("art", [0x1F3A8]), ("articulated_lorry", [0x1F69B]),
   ("artist_palette", [0x1F3A8]), ("aruba", [0x1F1E6, 0x1F1FC]),
   ("ascension_island", [0x1F1E6, 0x1F1E8]), ("astonished", [0x1F632]),
   ("astonished_face", [0x1F632]), ("athletic_shoe", [0x1F45F]), ("atm", [0x1F3E7]),
   ("atm_sign", [0x1F3E7]), ("atom_symbol", [0x269B]), ("australia", [0x1F1E6, 0x1F1FA]),
   ("austria", [0x1F1E6, 0x1F1F9]), ("auto_rickshaw", [0x1F6FA]), ("automobile", [0x1F697]),
   ("avocado", [0x1F951]), ("axe", [0x1FA93]), ("azerbaijan", [0x1F1E6, 0x1F1FF])]

/-- Emoji whose names start with `b`. -/
def emojiB : List (String × List Nat) :=
  [("b", [0x1F171]), ("b_button_(blood_type)", [0x1F171]), ("baby", [0x1F476]),
   ("baby_angel", [0x1F47C]), ("baby_angel_dark_skin_tone", [0x1F47C, 0x1F3FF]),
   ("baby_angel_light_skin_tone", [0x1F47C, 0x1F3FB]),
   ("baby_angel_medium-dark_skin_tone", [0x1F47C, 0x1F3FE]),
   ("baby_angel_medium-light_skin_tone", [0x1F47C, 0x1F3FC]),
   ("baby_angel_medium_skin_tone", [0x1F47C, 0x1F3FD]), ("baby_bottle", [0x1F37C]),
   ("baby_chick", [0x1F424]), ("baby_dark_skin_tone", [0x1F476, 0x1F3FF]),
   ("baby_light_skin_tone", [0x1F476, 0x1F3FB]), ("baby_medium-dark_skin_tone", [0x1F476, 0x1F3FE]),
   ("baby_medium-light_skin_tone", [0x1F476, 0x1F3FC]),
   ("baby_medium_skin_tone", [0x1F476, 0x1F3FD]), ("baby_symbol", [0x1F6BC]), ("back", [0x1F519]),
   ("back_arrow", [0x1F519]), ("backhand_index_pointing_down", [0x1F447]),
   ("backhand_index_pointing_down_dark_skin_tone", [0x1F447, 0x1F3FF]),
   ("backhand_index_pointing_down_light_skin_tone", [0x1F447, 0x1F3FB]),
   ("backhand_index_pointing_down_medium-dark_skin_tone", [0x1F447, 0x1F3FE]),
   ("backhand_index_pointing_down_medium-light_skin_tone", [0x1F447, 0x1F3FC]),
   ("backhand_index_pointing_down_medium_skin_tone", [0x1F447, 0x1F3FD]),
   ("backhand_index_pointing_left", [0x1F448]),
   ("backhand_index_pointing_left_dark_skin_tone", [0x1F448, 0x1F3FF]),
   ("backhand_index_pointing_left_light_skin_tone", [0x1F448, 0x1F3FB]),
   ("backhand_index_pointing_left_medium-dark_skin_tone", [0x1F448, 0x1F3FE]),
   ("backhand_index_pointing_left_medium-light_skin_tone", [0x1F448, 0x1F3FC]),
   ("backhand_index_pointing_left_medium_skin_tone", [0x1F448, 0x1F3FD]),
   ("backhand_index_pointing_right", [0x1F449]),
   ("backhand_index_pointing_right_dark_skin_tone", [0x1F449, 0x1F3FF]),
   ("backhand_index_pointing_right_light_skin_tone", [0x1F449, 0x1F3FB]),
   ("backhand_index_pointing_right_medium-dark_skin_tone", [0x1F449, 0x1F3FE]),
   ("backhand_index_pointing_right_medium-light_skin_tone", [0x1F449, 0x1F3FC]),
   ("backhand_index_pointing_right_medium_skin_tone", [0x1F449, 0x1F3FD]),
   ("backhand_index_pointing_up", [0x1F446]),
   ("backhand_index_pointing_up_dark_skin_tone", [0x1F446, 0x1F3FF]),
   ("backhand_index_pointing_up_light_skin_tone", [0x1F446, 0x1F3FB]),
   ("backhand_index_pointing_up_medium-dark_skin_tone", [0x1F446, 0x1F3FE]),
   ("backhand_index_pointing_up_medium-light_skin_tone", [0x1F446, 0x1F3FC]),
   ("backhand_index_pointing_up_medium_skin_tone", [0x1F446, 0x1F3FD]), ("bacon", [0x1F953]),
   ("badger", [0x1F9A1]), ("badminton", [0x1F3F8]),
   ("badminton_racquet_and_shuttlecock", [0x1F3F8]), ("bagel", [0x1F96F]),
   ("baggage_claim", [0x1F6C4]), ("baguette_bread", [0x1F956]), ("bahamas", [0x1F1E7, 0x1F1F8]),
   ("bahrain", [0x1F1E7, 0x1F1ED]), ("balance_scale", [0x2696]), ("bald", [0x1F9B2]),
   ("bald_man", [0x1F468, 0x200D, 0x1F9B2]), ("bald_woman", [0x1F469, 0x200D, 0x1F9B2]),
   ("ballet_shoes", [0x1FA70]), ("balloon", [0x1F388]), ("ballot_box_with_ballot", [0x1F5F3]),
   ("ballot_box_with_check", [0x2611]), ("bamboo", [0x1F38D]), ("banana", [0x1F34C]),
   ("bangbang", [0x203C]), ("bangladesh", [0x1F1E7, 0x1F1E9]), ("banjo", [0x1FA95]),
   ("bank", [0x1F3E6]), ("bar_chart", [0x1F4CA]), ("barbados", [0x1F1E7, 0x1F1E7]),
   ("barber", [0x1F488]), ("barber_pole", [0x1F488]), ("baseball", [0x26BE]), ("basket", [0x1F9FA]),
   ("basketball", [0x1F3C0]), ("bat", [0x1F987]), ("bath", [0x1F6C0]), ("bathtub", [0x1F6C1]),
   ("battery", [0x1F50B]), ("beach_with_umbrella", [0x1F3D6]),
   ("beaming_face_with_smiling_eyes", [0x1F601]), ("bear", [0x1F43B]), ("bear_face", [0x1F43B]),
   ("bearded_person", [0x1F9D4]), ("bearded_person_dark_skin_tone", [0x1F9D4, 0x1F3FF]),
   ("bearded_person_light_skin_tone", [0x1F9D4, 0x1F3FB]),
   ("bearded_person_medium-dark_skin_tone", [0x1F9D4, 0x1F3FE]),
   ("bearded_person_medium-light_skin_tone", [0x1F9D4, 0x1F3FC]),
   ("bearded_person_medium_skin_tone", [0x1F9D4, 0x1F3FD]), ("beating_heart", [0x1F493]),
   ("bed", [0x1F6CF]), ("bee", [0x1F41D]), ("beer", [0x1F37A]), ("beer_mug", [0x1F37A]),
   ("beers", [0x1F37B]), ("beetle", [0x1F41E]), ("beginner", [0x1F530]),
   ("belarus", [0x1F1E7, 0x1F1FE]), ("belgium", [0x1F1E7, 0x1F1EA]), ("belize", [0x1F1E7, 0x1F1FF]),
   ("bell", [0x1F514]), ("bell_with_slash", [0x1F515]), ("bellhop_bell", [0x1F6CE]),
   ("benin", [0x1F1E7, 0x1F1EF]), ("bento", [0x1F371]), ("bento_box", [0x1F371]),
   ("bermuda", [0x1F1E7, 0x1F1F2]), ("beverage_box", [0x1F9C3]), ("bhutan", [0x1F1E7, 0x1F1F9]),
   ("bicycle", [0x1F6B2]), ("bicyclist", [0x1F6B4]), ("bike", [0x1F6B2]), ("bikini", [0x1F459]),
   ("billed_cap", [0x1F9E2]), ("biohazard", [0x2623]), ("biohazard_sign", [0x2623]),
   ("bird", [0x1F426]), ("birthday", [0x1F382]), ("birthday_cake", [0x1F382]),
   ("black_circle", [0x26AB]), ("black_circle_for_record", [0x23FA]), ("black_flag", [0x1F3F4]),
   ("black_heart", [0x1F5A4]), ("black_joker", [0x1F0CF]), ("black_large_square", [0x2B1B]),
   ("black_left__pointing_double_triangle_with_vertical_bar", [0x23EE]),
   ("black_medium-small_square", [0x25FE]), ("black_medium_small_square", [0x25FE]),
   ("black_medium_square", [0x25FC]), ("black_nib", [0x2712]),
   ("black_right__pointing_double_triangle_with_vertical_bar", [0x23ED]),
   ("black_right__pointing_triangle_with_double_vertical_bar", [0x23EF]),
   ("black_small_square", [0x25AA]), ("black_square_button", [0x1F532]),
   ("black_square_for_stop", [0x23F9]), ("blond-haired_man", [0x1F471, 0x200D, 0x2642, 0xFE0F]),
   ("blond-haired_man_dark_skin_tone", [0x1F471, 0x1F3FF, 0x200D, 0x2642, 0xFE0F]),
   ("blond-haired_man_light_skin_tone", [0x1F471, 0x1F3FB, 0x200D, 0x2642, 0xFE0F]),
   ("blond-haired_man_medium-dark_skin_tone", [0x1F471, 0x1F3FE, 0x200D, 0x2642, 0xFE0F]),
   ("blond-haired_man_medium-light_skin_tone", [0x1F471, 0x1F3FC, 0x200D, 0x2642, 0xFE0F]),
   ("blond-haired_man_medium_skin_tone", [0x1F471, 0x1F3FD, 0x200D, 0x2642, 0xFE0F]),
   ("blond-haired_person", [0x1F471]), ("blond-haired_person_dark_skin_tone", [0x1F471, 0x1F3FF]),
   ("blond-haired_person_light_skin_tone", [0x1F471, 0x1F3FB]),
   ("blond-haired_person_medium-dark_skin_tone", [0x1F471, 0x1F3FE]),
   ("blond-haired_person_medium-light_skin_tone", [0x1F471, 0x1F3FC]),
   ("blond-haired_person_medium_skin_tone", [0x1F471, 0x1F3FD]),
   ("blond-haired_woman", [0x1F471, 0x200D, 0x2640, 0xFE0F]),
   ("blond-haired_woman_dark_skin_tone", [0x1F471, 0x1F3FF, 0x200D, 0x2640, 0xFE0F]),
   ("blond-haired_woman_light_skin_tone", [0x1F471, 0x1F3FB, 0x200D, 0x2640, 0xFE0F]),
   ("blond-haired_woman_medium-dark_skin_tone", [0x1F471, 0x1F3FE, 0x200D, 0x2640, 0xFE0F]),
   ("blond-haired_woman_medium-light_skin_tone", [0x1F471, 0x1F3FC, 0x200D, 0x2640, 0xFE0F]),
   ("blond-haired_woman_medium_skin_tone", [0x1F471, 0x1F3FD, 0x200D, 0x2640, 0xFE0F]),
   ("blossom", [0x1F33C]), ("blowfish", [0x1F421]), ("blue_book", [0x1F4D8]),
   ("blue_car", [0x1F699]), ("blue_circle", [0x1F535]), ("blue_heart", [0x1F499]),
   ("blue_square", [0x1F7E6]), ("blush", [0x1F60A]), ("boar", [0x1F417]), ("boat", [0x26F5]),
   ("bolivia", [0x1F1E7, 0x1F1F4]), ("bomb", [0x1F4A3]), ("bone", [0x1F9B4]), ("book", [0x1F4D6]),
   ("bookmark", [0x1F516]), ("bookmark_tabs", [0x1F4D1]), ("books", [0x1F4DA]), ("boom", [0x1F4A5]),
   ("boot", [0x1F462]), ("bosnia_&_herzegovina", [0x1F1E7, 0x1F1E6]),
   ("botswana", [0x1F1E7, 0x1F1FC]), ("bottle_with_popping_cork", [0x1F37E]),
   ("bouquet", [0x1F490]), ("bouvet_island", [0x1F1E7, 0x1F1FB]), ("bow", [0x1F647]),
   ("bow_and_arrow", [0x1F3F9]), ("bowl_with_spoon", [0x1F963]), ("bowling", [0x1F3B3]),
   ("boxing_glove", [0x1F94A]), ("boy", [0x1F466]), ("boy_dark_skin_tone", [0x1F466, 0x1F3FF]),
   ("boy_light_skin_tone", [0x1F466, 0x1F3FB]), ("boy_medium-dark_skin_tone", [0x1F466, 0x1F3FE]),
   ("boy_medium-light_skin_tone", [0x1F466, 0x1F3FC]), ("boy_medium_skin_tone", [0x1F466, 0x1F3FD]),
   ("brain", [0x1F9E0]), ("brazil", [0x1F1E7, 0x1F1F7]), ("bread", [0x1F35E]),
   ("breast-feeding", [0x1F931]), ("breast-feeding_dark_skin_tone", [0x1F931, 0x1F3FF]),
   ("breast-feeding_light_skin_tone", [0x1F931, 0x1F3FB]),
   ("breast-feeding_medium-dark_skin_tone", [0x1F931, 0x1F3FE]),
   ("breast-feeding_medium-light_skin_tone", [0x1F931, 0x1F3FC]),
   ("breast-feeding_medium_skin_tone", [0x1F931, 0x1F3FD]), ("brick", [0x1F9F1]),
   ("bride_with_veil", [0x1F470]), ("bride_with_veil_dark_skin_tone", [0x1F470, 0x1F3FF]),
   ("bride_with_veil_light_skin_tone", [0x1F470, 0x1F3FB]),
   ("bride_with_veil_medium-dark_skin_tone", [0x1F470, 0x1F3FE]),
   ("bride_with_veil_medium-light_skin_tone", [0x1F470, 0x1F3FC]),
   ("bride_with_veil_medium_skin_tone", [0x1F470, 0x1F3FD]), ("bridge_at_night", [0x1F309]),
   ("briefcase", [0x1F4BC]), ("briefs", [0x1FA72]), ("bright_button", [0x1F506]),
   ("british_indian_ocean_territory", [0x1F1EE, 0x1F1F4]),
   ("british_virgin_islands", [0x1F1FB, 0x1F1EC]), ("broccoli", [0x1F966]),
   ("broken_heart", [0x1F494]), ("broom", [0x1F9F9]), ("brown_circle", [0x1F7E4]),
   ("brown_heart", [0x1F90E]), ("brown_square", [0x1F7EB]), ("brunei", [0x1F1E7, 0x1F1F3]),
   ("bug", [0x1F41B]), ("building_construction", [0x1F3D7]), ("bulb", [0x1F4A1]),
   ("bulgaria", [0x1F1E7, 0x1F1EC]), ("bullet_train", [0x1F685]), ("bullettrain_front", [0x1F685]),
   ("bullettrain_side", [0x1F684]), ("burkina_faso", [0x1F1E7, 0x1F1EB]), ("burrito", [0x1F32F]),
   ("burundi", [0x1F1E7, 0x1F1EE]), ("bus", [0x1F68C]), ("bus_stop", [0x1F68F]),
   ("busstop", [0x1F68F]), ("bust_in_silhouette", [0x1F464]), ("busts_in_silhouette", [0x1F465]),
   ("butter", [0x1F9C8]), ("butterfly", [0x1F98B])]

/-- Emoji whose names start with `c`. -/
def emojiC : List (String × List Nat) :=
  [("cactus", [0x1F335]), ("cake", [0x1F370]), ("calendar", [0x1F4C6]), ("call_me_hand", [0x1F919]),
   ("call_me_hand_dark_skin_tone", [0x1F919, 0x1F3FF]),
   ("call_me_hand_light_skin_tone", [0x1F919, 0x1F3FB]),
   ("call_me_hand_medium-dark_skin_tone", [0x1F919, 0x1F3FE]),
   ("call_me_hand_medium-light_skin_tone", [0x1F919, 0x1F3FC]),
   ("call_me_hand_medium_skin_tone", [0x1F919, 0x1F3FD]), ("calling", [0x1F4F2]),
   ("cambodia", [0x1F1F0, 0x1F1ED]), ("camel", [0x1F42B]), ("camera", [0x1F4F7]),
   ("camera_with_flash", [0x1F4F8]), ("cameroon", [0x1F1E8, 0x1F1F2]), ("camping", [0x1F3D5]),
   ("canada", [0x1F1E8, 0x1F1E6]), ("canary_islands", [0x1F1EE, 0x1F1E8]), ("cancer", [0x264B]),
   ("candle", [0x1F56F]), ("candy", [0x1F36C]), ("canned_food", [0x1F96B]), ("canoe", [0x1F6F6]),
   ("cape_verde", [0x1F1E8, 0x1F1FB]), ("capital_abcd", [0x1F520]), ("capricorn", [0x2651]),
   ("car", [0x1F697]), ("card_file_box", [0x1F5C3]), ("card_index", [0x1F4C7]),
   ("card_index_dividers", [0x1F5C2]), ("caribbean_netherlands", [0x1F1E7, 0x1F1F6]),
   ("carousel_horse", [0x1F3A0]), ("carp_streamer", [0x1F38F]), ("carrot", [0x1F955]),
   ("castle", [0x1F3F0]), ("cat", [0x1F431]), ("cat2", [0x1F408]), ("cat_face", [0x1F431]),
   ("cat_face_with_tears_of_joy", [0x1F639]), ("cat_face_with_wry_smile", [0x1F63C]),
   ("cayman_islands", [0x1F1F0, 0x1F1FE]), ("cd", [0x1F4BF]),
   ("central_african_republic", [0x1F1E8, 0x1F1EB]), ("ceuta_&_melilla", [0x1F1EA, 0x1F1E6]),
   ("chad", [0x1F1F9, 0x1F1E9]), ("chains", [0x26D3]), ("chair", [0x1FA91]), ("chart", [0x1F4B9]),
   ("chart_decreasing", [0x1F4C9]), ("chart_increasing", [0x1F4C8]),
   ("chart_increasing_with_yen", [0x1F4B9]), ("chart_with_downwards_trend", [0x1F4C9]),
   ("chart_with_upwards_trend", [0x1F4C8]), ("checkered_flag", [0x1F3C1]),
   ("cheese_wedge", [0x1F9C0]), ("chequered_flag", [0x1F3C1]), ("cherries", [0x1F352]),
   ("cherry_blossom", [0x1F338]), ("chess_pawn", [0x265F]), ("chestnut", [0x1F330]),
   ("chicken", [0x1F414]), ("child", [0x1F9D2]), ("child_dark_skin_tone", [0x1F9D2, 0x1F3FF]),
   ("child_light_skin_tone", [0x1F9D2, 0x1F3FB]),
   ("child_medium-dark_skin_tone", [0x1F9D2, 0x1F3FE]),
   ("child_medium-light_skin_tone", [0x1F9D2, 0x1F3FC]),
   ("child_medium_skin_tone", [0x1F9D2, 0x1F3FD]), ("children_crossing", [0x1F6B8]),
   ("chile", [0x1F1E8, 0x1F1F1]), ("china", [0x1F1E8, 0x1F1F3]), ("chipmunk", [0x1F43F]),
   ("chocolate_bar", [0x1F36B]), ("chopsticks", [0x1F962]),
   ("christmas_island", [0x1F1E8, 0x1F1FD]), ("christmas_tree", [0x1F384]), ("church", [0x26EA]),
   ("cigarette", [0x1F6AC]), ("cinema", [0x1F3A6]), ("circled_m", [0x24C2]),
   ("circus_tent", [0x1F3AA]), ("city_sunrise", [0x1F307]), ("city_sunset", [0x1F306]),
   ("cityscape", [0x1F3D9]), ("cityscape_at_dusk", [0x1F306]), ("cl", [0x1F191]),
   ("cl_button", [0x1F191]), ("clamp", [0x1F5DC]), ("clap", [0x1F44F]), ("clapper", [0x1F3AC]),
   ("clapper_board", [0x1F3AC]), ("clapping_hands", [0x1F44F]),
   ("clapping_hands_dark_skin_tone", [0x1F44F, 0x1F3FF]),
   ("clapping_hands_light_skin_tone", [0x1F44F, 0x1F3FB]),
   ("clapping_hands_medium-dark_skin_tone", [0x1F44F, 0x1F3FE]),
   ("clapping_hands_medium-light_skin_tone", [0x1F44F, 0x1F3FC]),
   ("clapping_hands_medium_skin_tone", [0x1F44F, 0x1F3FD]), ("classical_building", [0x1F3DB]),
   ("clinking_beer_mugs", [0x1F37B]), ("clinking_glasses", [0x1F942]), ("clipboard", [0x1F4CB]),
   ("clipperton_island", [0x1F1E8, 0x1F1F5]), ("clock1", [0x1F550]), ("clock10", [0x1F559]),
   ("clock1030", [0x1F565]), ("clock11", [0x1F55A]), ("clock1130", [0x1F566]),
   ("clock12", [0x1F55B]), ("clock1230", [0x1F567]), ("clock130", [0x1F55C]), ("clock2", [0x1F551]),
   ("clock230", [0x1F55D]), ("clock3", [0x1F552]), ("clock330", [0x1F55E]), ("clock4", [0x1F553]),
   ("clock430", [0x1F55F]), ("clock5", [0x1F554]), ("clock530", [0x1F560]), ("clock6", [0x1F555]),
   ("clock630", [0x1F561]), ("clock7", [0x1F556]), ("clock730", [0x1F562]), ("clock8", [0x1F557]),
   ("clock830", [0x1F563]), ("clock9", [0x1F558]), ("clock930", [0x1F564]),
   ("clockwise_vertical_arrows", [0x1F503]), ("closed_book", [0x1F4D5]),
   ("closed_lock_with_key", [0x1F510]), ("closed_mailbox_with_lowered_flag", [0x1F4EA]),
   ("closed_mailbox_with_raised_flag", [0x1F4EB]), ("closed_umbrella", [0x1F302]),
   ("cloud", [0x2601]), ("cloud_with_lightning", [0x1F329]),
   ("cloud_with_lightning_and_rain", [0x26C8]), ("cloud_with_rain", [0x1F327]),
   ("cloud_with_snow", [0x1F328]), ("cloud_with_tornado", [0x1F32A]), ("clown_face", [0x1F921]),
   ("club_suit", [0x2663]), ("clubs", [0x2663]), ("clutch_bag", [0x1F45D]), ("coat", [0x1F9E5]),
   ("cocktail", [0x1F378]), ("cocktail_glass", [0x1F378]), ("coconut", [0x1F965]),
   ("cocos_(keeling)_islands", [0x1F1E8, 0x1F1E8]), ("coffee", [0x2615]), ("coffin", [0x26B0]),
   ("cold_face", [0x1F976]), ("cold_sweat", [0x1F630]), ("collision", [0x1F4A5]),
   ("colombia", [0x1F1E8, 0x1F1F4]), ("comet", [0x2604]), ("comoros", [0x1F1F0, 0x1F1F2]),
   ("compass", [0x1F9ED]), ("compression", [0x1F5DC]), ("computer", [0x1F4BB]),
   ("computer_disk", [0x1F4BD]), ("computer_mouse", [0x1F5B1]), ("confetti_ball", [0x1F38A]),
   ("confounded", [0x1F616]), ("confounded_face", [0x1F616]), ("confused", [0x1F615]),
   ("confused_face", [0x1F615]), ("congo_-_brazzaville", [0x1F1E8, 0x1F1EC]),
   ("congo_-_kinshasa", [0x1F1E8, 0x1F1E9]), ("congratulations", [0x3297]),
   ("construction", [0x1F6A7]), ("construction_worker", [0x1F477]),
   ("construction_worker_dark_skin_tone", [0x1F477, 0x1F3FF]),
   ("construction_worker_light_skin_tone", [0x1F477, 0x1F3FB]),
   ("construction_worker_medium-dark_skin_tone", [0x1F477, 0x1F3FE]),
   ("construction_worker_medium-light_skin_tone", [0x1F477, 0x1F3FC]),
   ("construction_worker_medium_skin_tone", [0x1F477, 0x1F3FD]), ("control_knobs", [0x1F39B]),
   ("convenience_store", [0x1F3EA]), ("cook_islands", [0x1F1E8, 0x1F1F0]),
   ("cooked_rice", [0x1F35A]), ("cookie", [0x1F36A]), ("cooking", [0x1F373]), ("cool", [0x1F192]),
   ("cool_button", [0x1F192]), ("cop", [0x1F46E]), ("copyright", [0xA9]), ("corn", [0x1F33D]),
   ("costa_rica", [0x1F1E8, 0x1F1F7]), ("couch_and_lamp", [0x1F6CB]),
   ("counterclockwise_arrows_button", [0x1F504]), ("couple", [0x1F46B]),
   ("couple_with_heart", [0x1F491]),
   ("couple_with_heart_man_man", [0x1F468, 0x200D, 0x2764, 0xFE0F, 0x200D, 0x1F468]),
   ("couple_with_heart_woman_man", [0x1F469, 0x200D, 0x2764, 0xFE0F, 0x200D, 0x1F468]),
   ("couple_with_heart_woman_woman", [0x1F469, 0x200D, 0x2764, 0xFE0F, 0x200D, 0x1F469]),
   ("couplekiss", [0x1F48F]), ("cow", [0x1F42E]), ("cow2", [0x1F404]), ("cow_face", [0x1F42E]),
   ("cowboy_hat_face", [0x1F920]), ("crab", [0x1F980]), ("crayon", [0x1F58D]),
   ("credit_card", [0x1F4B3]), ("crescent_moon", [0x1F319]), ("cricket", [0x1F997]),
   ("cricket_bat_and_ball", [0x1F3CF]), ("cricket_game", [0x1F3CF]),
   ("croatia", [0x1F1ED, 0x1F1F7]), ("crocodile", [0x1F40A]), ("croissant", [0x1F950]),
   ("cross_mark", [0x274C]), ("cross_mark_button", [0x274E]), ("crossed_fingers", [0x1F91E]),
   ("crossed_fingers_dark_skin_tone", [0x1F91E, 0x1F3FF]),
   ("crossed_fingers_light_skin_tone", [0x1F91E, 0x1F3FB]),
   ("crossed_fingers_medium-dark_skin_tone", [0x1F91E, 0x1F3FE]),
   ("crossed_fingers_medium-light_skin_tone", [0x1F91E, 0x1F3FC]),
   ("crossed_fingers_medium_skin_tone", [0x1F91E, 0x1F3FD]), ("crossed_flags", [0x1F38C]),
   ("crossed_swords", [0x2694]), ("crown", [0x1F451]), ("cry", [0x1F622]),
   ("crying_cat_face", [0x1F63F]), ("crying_face", [0x1F622]), ("crystal_ball", [0x1F52E]),
   ("cuba", [0x1F1E8, 0x1F1FA]), ("cucumber", [0x1F952]), ("cup_with_straw", [0x1F964]),
   ("cupcake", [0x1F9C1]), ("cupid", [0x1F498]), ("curaçao", [0x1F1E8, 0x1F1FC]),
   ("curling_stone", [0x1F94C]), ("curly-haired_man", [0x1F468, 0x200D, 0x1F9B1]),
   ("curly-haired_woman", [0x1F469, 0x200D, 0x1F9B1]), ("curly_hair", [0x1F9B1]),
   ("curly_loop", [0x27B0]), ("currency_exchange", [0x1F4B1]), ("curry", [0x1F35B]),
   ("curry_rice", [0x1F35B]), ("custard", [0x1F36E]), ("customs", [0x1F6C3]),
   ("cut_of_meat", [0x1F969]), ("cyclone", [0x1F300]), ("cyprus", [0x1F1E8, 0x1F1FE]),
   ("czechia", [0x1F1E8, 0x1F1FF]), ("côte_d’ivoire", [0x1F1E8, 0x1F1EE])]

/-- Emoji whose names start with `d`. -/
def emojiD : List (String × List Nat) :=
  [("dagger", [0x1F5E1]), ("dagger_knife", [0x1F5E1]), ("dancer", [0x1F483]),
   ("dancers", [0x1F46F]), ("dango", [0x1F361]), ("dark_skin_tone", [0x1F3FF]),
   ("dark_sunglasses", [0x1F576]), ("dart", [0x1F3AF]), ("dash", [0x1F4A8]),
   ("dashing_away", [0x1F4A8]), ("date", [0x1F4C5]), ("deaf_person", [0x1F9CF]),
   ("deciduous_tree", [0x1F333]), ("deer", [0x1F98C]), ("delivery_truck", [0x1F69A]),
   ("denmark", [0x1F1E9, 0x1F1F0]), ("department_store", [0x1F3EC]), ("derelict_house", [0x1F3DA]),
   ("derelict_house_building", [0x1F3DA]), ("desert", [0x1F3DC]), ("desert_island", [0x1F3DD]),
   ("desktop_computer", [0x1F5A5]), ("detective", [0x1F575]),
   ("detective_dark_skin_tone", [0x1F575, 0x1F3FF]),
   ("detective_light_skin_tone", [0x1F575, 0x1F3FB]),
   ("detective_medium-dark_skin_tone", [0x1F575, 0x1F3FE]),
   ("detective_medium-light_skin_tone", [0x1F575, 0x1F3FC]),
   ("detective_medium_skin_tone", [0x1F575, 0x1F3FD]),
   ("diamond_shape_with_a_dot_inside", [0x1F4A0]), ("diamond_suit", [0x2666]),
   ("diamond_with_a_dot", [0x1F4A0]), ("diamonds", [0x2666]), ("diego_garcia", [0x1F1E9, 0x1F1EC]),
   ("dim_button", [0x1F505]), ("direct_hit", [0x1F3AF]), ("disappointed", [0x1F61E]),
   ("disappointed_face", [0x1F61E]), ("disappointed_relieved", [0x1F625]),
   ("diving_mask", [0x1F93F]), ("diya_lamp", [0x1FA94]), ("dizzy", [0x1F4AB]),
   ("dizzy_face", [0x1F635]), ("djibouti", [0x1F1E9, 0x1F1EF]), ("dna", [0x1F9EC]),
   ("do_not_litter", [0x1F6AF]), ("dog", [0x1F436]), ("dog2", [0x1F415]), ("dog_face", [0x1F436]),
   ("dollar", [0x1F4B5]), ("dollar_banknote", [0x1F4B5]), ("dolls", [0x1F38E]),
   ("dolphin", [0x1F42C]), ("dominica", [0x1F1E9, 0x1F1F2]),
   ("dominican_republic", [0x1F1E9, 0x1F1F4]), ("door", [0x1F6AA]),
   ("dotted_six-pointed_star", [0x1F52F]), ("double_curly_loop", [0x27BF]),
   ("double_exclamation_mark", [0x203C]), ("double_vertical_bar", [0x23F8]),
   ("doughnut", [0x1F369]), ("dove", [0x1F54A]), ("dove_of_peace", [0x1F54A]),
   ("down-left_arrow", [0x2199]), ("down-right_arrow", [0x2198]), ("down_arrow", [0x2B07]),
   ("downcast_face_with_sweat", [0x1F613]), ("downwards_button", [0x1F53D]), ("dragon", [0x1F409]),
   ("dragon_face", [0x1F432]), ("dress", [0x1F457]), ("dromedary_camel", [0x1F42A]),
   ("drooling_face", [0x1F924]), ("drop_of_blood", [0x1FA78]), ("droplet", [0x1F4A7]),
   ("drum", [0x1F941]), ("duck", [0x1F986]), ("dumpling", [0x1F95F]), ("dvd", [0x1F4C0])]

/-- Emoji whose names start with `e`. -/
def emojiE : List (String × List Nat) :=
  [("e-mail", [0x1F4E7]), ("e__mail", [0x1F4E7]), ("eagle", [0x1F985]), ("ear", [0x1F442]),
   ("ear_dark_skin_tone", [0x1F442, 0x1F3FF]), ("ear_light_skin_tone", [0x1F442, 0x1F3FB]),
   ("ear_medium-dark_skin_tone", [0x1F442, 0x1F3FE]),
   ("ear_medium-light_skin_tone", [0x1F442, 0x1F3FC]), ("ear_medium_skin_tone", [0x1F442, 0x1F3FD]),
   ("ear_of_corn", [0x1F33D]), ("ear_of_rice", [0x1F33E]), ("ear_with_hearing_aid", [0x1F9BB]),
   ("earth_africa", [0x1F30D]), ("earth_americas", [0x1F30E]), ("earth_asia", [0x1F30F]),
   ("ecuador", [0x1F1EA, 0x1F1E8]), ("egg", [0x1F373]), ("eggplant", [0x1F346]),
   ("egypt", [0x1F1EA, 0x1F1EC]), ("eight", [0x38, 0xFE0F, 0x20E3]),
   ("eight-pointed_star", [0x2734]), ("eight-spoked_asterisk", [0x2733]),
   ("eight-thirty", [0x1F563]), ("eight_o’clock", [0x1F557]),
   ("eight_pointed_black_star", [0x2734]), ("eight_spoked_asterisk", [0x2733]),
   ("eject_button", [0x23CF]), ("eject_symbol", [0x23CF]), ("el_salvador", [0x1F1F8, 0x1F1FB]),
   ("electric_plug", [0x1F50C]), ("elephant", [0x1F418]), ("eleven-thirty", [0x1F566]),
   ("eleven_o’clock", [0x1F55A]), ("elf", [0x1F9DD]), ("elf_dark_skin_tone", [0x1F9DD, 0x1F3FF]),
   ("elf_light_skin_tone", [0x1F9DD, 0x1F3FB]), ("elf_medium-dark_skin_tone", [0x1F9DD, 0x1F3FE]),
   ("elf_medium-light_skin_tone", [0x1F9DD, 0x1F3FC]), ("elf_medium_skin_tone", [0x1F9DD, 0x1F3FD]),
   ("email", [0x2709]), ("emoji_modifier_fitzpatrick_type__1__2", [0x1F3FB]),
   ("emoji_modifier_fitzpatrick_type__3", [0x1F3FC]),
   ("emoji_modifier_fitzpatrick_type__4", [0x1F3FD]),
   ("emoji_modifier_fitzpatrick_type__5", [0x1F3FE]),
   ("emoji_modifier_fitzpatrick_type__6", [0x1F3FF]), ("end", [0x1F51A]), ("end_arrow", [0x1F51A]),
   ("england", [0x1F3F4, 0xE0067, 0xE0062, 0xE0065, 0xE006E, 0xE0067, 0xE007F]),
   ("envelope", [0x2709]), ("envelope_with_arrow", [0x1F4E9]),
   ("equatorial_guinea", [0x1F1EC, 0x1F1F6]), ("eritrea", [0x1F1EA, 0x1F1F7]),
   ("estonia", [0x1F1EA, 0x1F1EA]), ("ethiopia", [0x1F1EA, 0x1F1F9]), ("euro", [0x1F4B6]),
   ("euro_banknote", [0x1F4B6]), ("european_castle", [0x1F3F0]),
   ("european_post_office", [0x1F3E4]), ("european_union", [0x1F1EA, 0x1F1FA]),
   ("evergreen_tree", [0x1F332]), ("ewe", [0x1F411]), ("exclamation", [0x2757]),
   ("exclamation_mark", [0x2757]), ("exclamation_question_mark", [0x2049]),
   ("exploding_head", [0x1F92F]), ("expressionless", [0x1F611]), ("expressionless_face", [0x1F611]),
   ("eye", [0x1F441]), ("eye_in_speech_bubble", [0x1F441, 0xFE0F, 0x200D, 0x1F5E8, 0xFE0F]),
   ("eyeglasses", [0x1F453]), ("eyes", [0x1F440])]

end TemplateAudit
